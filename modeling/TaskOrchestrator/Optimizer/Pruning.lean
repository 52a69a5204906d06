import TaskOrchestrator.Optimizer.Exactness

/-!
# Searching with and without the bound

A node is cut when even with all remaining tasks scheduled, each worth what the bound grants, it
would not beat the incumbent. Where every such node would also not beat it with the remaining
tasks counted for what they are worth, the search ends with the best score of the whole tree. A
task that is worth more than the bound grants makes the search lose the best leaf of some tree.
-/

namespace TaskOrchestrator.Optimizer

open Library
open TaskOrchestrator.Core hiding earliestStart earliestStart_sound

set_option autoImplicit false

section Exhaustive

variable (model : OptimizationModel) (index : ConstraintIndex) (options : OptimizationOptions)

/-- `dfs` without the test of the bound. -/
def exhaustiveDfs : Nat → SearchState → Incumbent → Incumbent
  | 0, _, incumbent => incumbent
  | depth + 1, node, incumbent =>
    let incumbent := incumbent.countNode
    let state := dropDescendantsIfBlocked model node
    match readyTasks model state with
    | [] =>
      let currentScore := scoreFor state options
      if !incumbent.haveBest || betterScore currentScore incumbent.bestScore then
        incumbent.record model state currentScore
      else incumbent
    | task :: _ =>
      let placed := (candidatesForTask task index state).foldl (fun incumbent candidate =>
        exhaustiveDfs depth (state.place task candidate) incumbent) incumbent
      if options.allowPartialPlan || !task.mandatory
        then exhaustiveDfs depth (state.drop task.id) placed else placed

def exhaustiveIncumbent : Incumbent :=
  exhaustiveDfs model index options (model.tasks.length + 1) (rootState model)
    { best := { ok := true, backendName := backendName } }

def exhaustiveSolve : OptimizationSolution :=
  let incumbent := exhaustiveIncumbent model index options
  if incumbent.haveBest then incumbent.best
  else
    { incumbent.best with
      ok := false
      errorMessage := "No optimization result could be produced." }

theorem exhaustiveDfs_eq_explore (depth : Nat) (node : SearchState) (incumbent : Incumbent) :
    exhaustiveDfs model index options depth node incumbent =
      (searchTree model index options).uncut.explore depth node incumbent := by
  induction depth generalizing node incumbent with
  | zero => rfl
  | succ depth ih =>
    simp only [exhaustiveDfs, TreeSearch.explore]
    refine Eq.trans ?_ (if_neg Bool.false_ne_true).symm
    cases hready : readyTasks model (dropDescendantsIfBlocked model node) with
    | nil =>
      have hnone : (searchTree model index options).uncut.children
          ((searchTree model index options).uncut.enter node) = none :=
          searchTree_children_nil hready
      rw [hnone]
      rfl
    | cons task rest =>
      have hnodes : (searchTree model index options).uncut.children
          ((searchTree model index options).uncut.enter node) = _ := searchTree_children_cons hready
      rw [hnodes]
      dsimp only
      rw [List.foldl_append, List.foldl_map]
      simp only [ih]
      split_ifs
      · rfl
      · rfl

end Exhaustive

/-- The best score that was found, if any leaf was. -/
def Incumbent.found (incumbent : Incumbent) : Option ObjectiveScore :=
  if incumbent.haveBest then some incumbent.bestScore else none

theorem lex_injective {lhs rhs : ObjectiveScore} (h : lhs.lex = rhs.lex) : lhs = rhs := by
  simp only [ObjectiveScore.lex, EmbeddingLike.apply_eq_iff_eq, Prod.mk.injEq] at h
  obtain ⟨hfulfilled, hpriority, hmakespan⟩ := h
  cases lhs
  cases rhs
  simp_all

theorem found_eq_iff {lhs rhs : Incumbent} : lhs.found = rhs.found ↔ lhs.value = rhs.value := by
  unfold Incumbent.found Incumbent.value
  split_ifs
  · rw [Option.some.injEq, WithBot.coe_inj]
    exact ⟨congrArg ObjectiveScore.lex, lex_injective⟩
  · simp
  · simp
  · simp

theorem value_eq_bot {incumbent : Incumbent} :
    incumbent.value = ⊥ ↔ incumbent.haveBest = false := by
  unfold Incumbent.value
  split_ifs with hbest
  · simp [hbest]
  · simp [hbest]

def KeepsBestScore (model : OptimizationModel) (options : OptimizationOptions) : Prop :=
  (finalIncumbent model (ConstraintIndex.build model) options).found =
    (exhaustiveIncumbent model (ConstraintIndex.build model) options).found

section Agreement

variable {model : OptimizationModel} {index : ConstraintIndex} {options : OptimizationOptions}

theorem exhaustiveSolve_ok_iff :
    (exhaustiveSolve model index options).ok = true ↔
      (exhaustiveIncumbent model index options).haveBest = true := by
  have hok : (exhaustiveIncumbent model index options).best.ok = true := by
    rw [exhaustiveIncumbent, exhaustiveDfs_eq_explore]
    apply TreeSearch.explore_keeps fun incumbent : Incumbent => incumbent.best.ok = true
    · exact fun _ h => h
    · exact fun _ h => h
    · intro state _ _ incumbent h
      simp only [TreeSearch.uncut, searchTree]
      split_ifs
      · exact h
      · exact h
    · rfl
  rw [exhaustiveSolve]
  dsimp only
  split_ifs with hbest
  · exact iff_of_true hok hbest
  · simp [hbest]

/-- Nothing is cut before there is an incumbent, so the two find a leaf or none together. -/
theorem solve_ok_eq_exhaustive :
    (solve model index options).ok = (exhaustiveSolve model index options).ok := by
  have hbot :=
    TreeSearch.explore_uncut_eq_bot_iff
      (searchTree_keepsBest model index options) searchTree_shrinks
    (fun s incumbent hnone => ?_)
      (Nat.lt_succ_of_le (undecided_le model (dropDescendantsIfBlocked model (rootState model))))
    { best := { ok := true, backendName := backendName } }
  · rw [← exhaustiveDfs_eq_explore, value_eq_bot, value_eq_bot] at hbot
    rw [Bool.eq_iff_iff, solve_ok_iff,
      exhaustiveSolve_ok_iff, ← Bool.not_eq_false, ← Bool.not_eq_false]
    exact not_congr hbot
  · simp [searchTree, value_eq_bot.mp hnone]

theorem keepsBestScore_of_cutsCovered (hcovered : CutsCovered model options) :
    KeepsBestScore model options := by
  rw [KeepsBestScore, found_eq_iff, exhaustiveIncumbent, exhaustiveDfs_eq_explore]
  apply TreeSearch.value_explore_uncut_visited
    (searchTree_keepsBest model (ConstraintIndex.build model) options)
    searchTree_shrinks _ (Nat.lt_succ_of_le (undecided_le model _))
  intro s incumbent hvisits hcut u hbelow _
  exact leaf_le_of_cut (tally_of_visits hvisits) hcut (hcovered s incumbent hvisits hcut) hbelow

end Agreement

/-- A task that prefers an actor who is free late, and one that comes after it. -/
def relayFirst (priority : Priority) : OptimizerTask :=
  { id := "first", duration := 5, priority := priority, preferredActorIds := ["late"] }

def relayLast (priority : Priority) : OptimizerTask :=
  { id := "last", priority := priority, allowedActorIds := ["early"],
    dependencyTaskIds := ["first"] }

def relay (p q : Priority) (swapped : Bool) : OptimizationModel where
  actors :=
    [{ id := "late", availabilityWindows := [{ start := 5, stop := 10 }] },
      { id := "early", availabilityWindows := [{ start := 0, stop := 5 }] }]
  tasks := if swapped then [relayLast q, relayFirst p] else [relayFirst p, relayLast q]

def slot (actorId : ActorId) (startTime endTime : Time) : Candidate where
  actorId := actorId
  startTime := startTime
  endTime := endTime
  distance := 0
  preferred := false
  load := 0
  executionCost := 0
  tardiness := 0

section Relay

variable (p q : Priority) (swapped : Bool) (options : OptimizationOptions)

def relayRoot : SearchState := rootState (relay p q swapped)

def relayFirstOn (actorId : ActorId) (start : Time) : SearchState :=
  (relayRoot p q swapped).place (relayFirst p) (slot actorId start (start + 5))

def relayBothOn (actorId : ActorId) (start : Time) : SearchState :=
  (relayFirstOn p q swapped actorId start).place (relayLast q)
    (slot "early" (start + 5) (start + 5))

def relayTree : TreeSearch SearchState Incumbent :=
  searchTree (relay p q swapped) (ConstraintIndex.build (relay p q swapped)) options

theorem relay_root :
    (relayTree p q swapped options).enter (relayRoot p q swapped) = relayRoot p q swapped ∧
      (relayTree p q swapped options).children (relayRoot p q swapped) =
        some ([relayFirstOn p q swapped "late" 5, relayFirstOn p q swapped "early" 0] ++
          if options.allowPartialPlan then [(relayRoot p q swapped).drop "first"] else []) := by
  cases swapped <;> cases hpartialPlan : options.allowPartialPlan
  all_goals exact ⟨rfl, by simp only [relayTree, searchTree, hpartialPlan]; rfl⟩

theorem relay_firstOn {actorId : ActorId} {start : Time}
    (h : actorId = "late" ∧ start = 5 ∨ actorId = "early" ∧ start = 0) :
    (relayTree p q swapped options).enter (relayFirstOn p q swapped actorId start) =
        relayFirstOn p q swapped actorId start ∧
      (relayTree p q swapped options).children (relayFirstOn p q swapped actorId start) =
        some (relayBothOn p q swapped actorId start ::
          if options.allowPartialPlan then [(relayFirstOn p q swapped actorId start).drop "last"]
          else []) := by
  rcases h with ⟨rfl, rfl⟩ | ⟨rfl, rfl⟩
  all_goals cases swapped <;> cases hpartialPlan : options.allowPartialPlan
  all_goals exact ⟨rfl, by simp only [relayTree, searchTree, hpartialPlan]; rfl⟩

theorem relay_bothOn {actorId : ActorId} {start : Time}
    (h : actorId = "late" ∧ start = 5 ∨ actorId = "early" ∧ start = 0) :
    (relayTree p q swapped options).enter (relayBothOn p q swapped actorId start) =
        relayBothOn p q swapped actorId start ∧
      (relayTree p q swapped options).children (relayBothOn p q swapped actorId start) = none := by
  rcases h with ⟨rfl, rfl⟩ | ⟨rfl, rfl⟩
  all_goals cases swapped
  all_goals exact ⟨rfl, rfl⟩

theorem relay_dropped :
    (relayTree p q swapped options).children
        ((relayTree p q swapped options).enter ((relayRoot p q swapped).drop "first")) = none ∧
      (scoreFor
        ((relayTree p q swapped options).enter ((relayRoot p q swapped).drop "first"))
        options).fulfilled = 0 ∧
      (relayTree p q swapped options).children
        ((relayTree p q swapped options).enter ((relayFirstOn p q swapped "late" 5).drop "last")) =
          none ∧
      (scoreFor
        ((relayTree p q swapped options).enter ((relayFirstOn p q swapped "late" 5).drop "last"))
        options).fulfilled = 1 := by
  cases swapped
  all_goals exact ⟨rfl, rfl, rfl, rfl⟩

theorem relay_score {actorId : ActorId} {start : Time} (h : 0 ≤ start) :
    (scoreFor (relayBothOn p q swapped actorId start) options).lex =
      toLex (2, toLex (p * options.objective.priorityWeight + q * options.objective.priorityWeight,
        -(start + 5))) := by
  have hpriority : (scoreFor (relayBothOn p q swapped actorId start) options).totalPriority =
      0 + p * options.objective.priorityWeight + q * options.objective.priorityWeight := rfl
  have hmakespan : (scoreFor (relayBothOn p q swapped actorId start) options).makespan =
      max (max 0 (start + 5)) (start + 5) := rfl
  have hfulfilled : (scoreFor (relayBothOn p q swapped actorId start) options).fulfilled = 2 := rfl
  have hlater : (0 : Int) ≤ start + 5 := by
    have hstart : (0 : Int) ≤ start := h
    omega
  rw [ObjectiveScore.lex, hpriority, hmakespan, hfulfilled, Int.zero_add,
    max_eq_right hlater, max_self]

def noIncumbent : Incumbent := { best := { ok := true, backendName := backendName } }

theorem relay_keepsBest :
    (relayTree p q swapped options).KeepsBest (fun state => (scoreFor state options).lex)
      Incumbent.value :=
  searchTree_keepsBest (relay p q swapped) (ConstraintIndex.build (relay p q swapped)) options

/-- The first branch ends with both tasks placed, the first one on the actor that is free late. -/
theorem relay_first_branch :
    ((relayTree p q swapped options).explore 2
      (relayFirstOn p q swapped "late" 5) noIncumbent.countNode).value =
      (scoreFor (relayBothOn p q swapped "late" 5) options).lex := by
  have hbest := relay_keepsBest p q swapped options
  obtain ⟨henter, hchildren⟩ := relay_firstOn p q swapped options (Or.inl ⟨rfl, rfl⟩)
  obtain ⟨henterBoth, hleafBoth⟩ := relay_bothOn p q swapped options (Or.inl ⟨rfl, rfl⟩)
  obtain ⟨-, -, hleafDropped, hdropped⟩ := relay_dropped p q swapped options
  apply le_antisymm
  · apply TreeSearch.explore_le hbest bot_le
    intro u hu hnone
    rw [henter] at hu
    rcases hu.cases_leaf hnone with rfl | ⟨nodes, child, hnodes, hchild, hbelow⟩
    · exact absurd (hnone.symm.trans hchildren) (by simp)
    · obtain rfl := Option.some.inj (hchildren.symm.trans hnodes)
      rcases List.mem_cons.mp hchild with rfl | hchild
      · rw [henterBoth] at hbelow
        rw [hbelow.eq_of_leaf hleafBoth]
      · split_ifs at hchild
        · obtain rfl := List.mem_singleton.mp hchild
          rw [hbelow.eq_of_leaf hleafDropped, WithBot.coe_le_coe, lex_le_iff, hdropped]
          exact Or.inl Nat.one_lt_two
        · exact absurd hchild List.not_mem_nil
  · rw [TreeSearch.explore_of_children rfl (henter.symm ▸ hchildren), List.foldl_cons]
    refine le_trans ?_ (TreeSearch.value_le_foldl_explore hbest 1 _ _)
    rw [TreeSearch.explore_of_leaf rfl (henterBoth.symm ▸ hleafBoth), hbest.leaf, henterBoth]
    exact le_max_right _ _

/-- With the last task worth more than the bound grants, the branch with the better leaf is cut. -/
theorem relay_cut
    (hworth : kPriorityOptimizationUpperBoundPerTask < q * options.objective.priorityWeight)
    {incumbent : Incumbent}
    (hvalue : incumbent.value = (scoreFor (relayBothOn p q swapped "late" 5) options).lex) :
    (relayTree p q swapped options).cut (relayFirstOn p q swapped "early" 0) incumbent = true := by
  have hhave : incumbent.haveBest = true := by
    by_contra hnone
    rw [Bool.not_eq_true] at hnone
    rw [value_eq_bot.mpr hnone] at hvalue
    exact WithBot.coe_ne_bot hvalue.symm
  have hscore : (relayTree p q swapped options).cut (relayFirstOn p q swapped "early" 0) incumbent =
      (incumbent.haveBest && !betterScore (optimisticScore (relay p q swapped) options
        (relayFirstOn p q swapped "early" 0)) incumbent.bestScore) := rfl
  have hpriority : (optimisticScore (relay p q swapped) options
      (relayFirstOn p q swapped "early" 0)).totalPriority =
      0 + p * options.objective.priorityWeight + 1 * kPriorityOptimizationUpperBoundPerTask := by
    cases swapped <;> rfl
  have hfulfilled : (optimisticScore (relay p q swapped) options
      (relayFirstOn p q swapped "early" 0)).fulfilled = 2 := by
    cases swapped <;> rfl
  rw [Incumbent.value, if_pos hhave, WithBot.coe_inj, relay_score p q swapped options (by decide)]
    at hvalue
  rw [hscore, hhave, Bool.true_and, Bool.not_eq_true', not_betterScore_iff, hvalue,
    ObjectiveScore.lex, hpriority, hfulfilled, Prod.Lex.toLex_le_toLex, Prod.Lex.toLex_le_toLex]
  refine Or.inr ⟨rfl, Or.inl ?_⟩
  dsimp only
  omega

theorem relay_pruned_le
    (hworth : kPriorityOptimizationUpperBoundPerTask < q * options.objective.priorityWeight) :
    ((relayTree p q swapped options).explore 3 (relayRoot p q swapped) noIncumbent).value ≤
      (scoreFor (relayBothOn p q swapped "late" 5) options).lex := by
  have hbest := relay_keepsBest p q swapped options
  obtain ⟨henter, hchildren⟩ := relay_root p q swapped options
  obtain ⟨henterEarly, -⟩ := relay_firstOn p q swapped options (Or.inr ⟨rfl, rfl⟩)
  obtain ⟨hleafDropped, hdropped, -, -⟩ := relay_dropped p q swapped options
  have hfirst := relay_first_branch p q swapped options
  have hcut := relay_cut p q swapped options hworth ((hbest.visit _).trans hfirst)
  have hnodes := (congrArg (relayTree p q swapped options).children henter).trans hchildren
  rw [TreeSearch.explore_of_children rfl hnodes, List.foldl_append, List.foldl_cons,
    List.foldl_cons, List.foldl_nil]
  apply TreeSearch.foldl_keeps fun incumbent : Incumbent =>
    incumbent.value ≤ ((scoreFor (relayBothOn p q swapped "late" 5) options).lex : WithBot _)
  · intro child hchild incumbent hvalue
    split_ifs at hchild
    · obtain rfl := List.mem_singleton.mp hchild
      apply TreeSearch.explore_le hbest hvalue
      intro u hu _
      rw [hu.eq_of_leaf hleafDropped, WithBot.coe_le_coe, lex_le_iff, hdropped]
      exact Or.inl Nat.zero_lt_two
    · exact absurd hchild List.not_mem_nil
  · rw [TreeSearch.explore_of_cut (henterEarly.symm ▸ hcut), hbest.cutResult, hbest.visit]
    exact le_of_eq hfirst

theorem le_relay_exhaustive :
    ((scoreFor (relayBothOn p q swapped "early" 0) options).lex : WithBot (Nat ×ₗ Int ×ₗ Int)) ≤
      ((relayTree p q swapped options).uncut.explore 3
        (relayRoot p q swapped) noIncumbent).value := by
  obtain ⟨henter, hchildren⟩ := relay_root p q swapped options
  obtain ⟨henterFirst, hchildrenFirst⟩ := relay_firstOn p q swapped options (Or.inr ⟨rfl, rfl⟩)
  obtain ⟨henterBoth, hleafBoth⟩ := relay_bothOn p q swapped options (Or.inr ⟨rfl, rfl⟩)
  have hbelow : (relayTree p q swapped options).Below (relayRoot p q swapped)
      (relayBothOn p q swapped "early" 0) := by
    have hfirst : relayFirstOn p q swapped "early" 0 ∈
        [relayFirstOn p q swapped "late" 5, relayFirstOn p q swapped "early" 0] :=
        List.mem_cons_of_mem _ List.mem_cons_self
    apply TreeSearch.Below.child hchildren (List.mem_append_left _ hfirst)
    rw [henterFirst]
    apply TreeSearch.Below.child hchildrenFirst List.mem_cons_self
    rw [henterBoth]
    exact .refl _
  have hdepth : undecided (relay p q swapped) (relayRoot p q swapped) < 3 :=
    Nat.lt_succ_of_le ((undecided_le _ _).trans (by cases swapped <;> exact le_refl 2))
  exact TreeSearch.score_le_explore_visited
    (relay_keepsBest p q swapped options).uncut searchTree_shrinks
    (fun _ _ _ hfalse => absurd hfalse Bool.false_ne_true) (henter.symm ▸ hdepth)
      (henter.symm ▸ hbelow) hleafBoth

/-- A last task that is worth more than the bound grants makes the search lose the best leaf. -/
theorem relay_loses_best
    (hworth : kPriorityOptimizationUpperBoundPerTask < q * options.objective.priorityWeight) :
    ¬KeepsBestScore (relay p q swapped) options := by
  intro hsame
  have hdepth : (relay p q swapped).tasks.length + 1 = 3 := by cases swapped <;> rfl
  rw [KeepsBestScore, found_eq_iff, exhaustiveIncumbent, exhaustiveDfs_eq_explore, finalIncumbent,
    hdepth] at hsame
  have hpruned := relay_pruned_le p q swapped options hworth
  have hle := (le_relay_exhaustive p q swapped options).trans (le_of_eq_of_le hsame.symm hpruned)
  rw [WithBot.coe_le_coe, relay_score p q swapped options (by decide),
    relay_score p q swapped options (by decide)] at hle
  simp only [Prod.Lex.toLex_le_toLex, lt_self_iff_false, false_or, true_and] at hle
  have hmakespan : ¬(-(0 + 5) : Int) ≤ -(5 + 5) := by decide
  exact hmakespan hle

end Relay

/-- Pruning never changes whether a solution is found, and keeps the best score where every cut
stands for the worth of the remaining tasks, as it does where no task is worth more than the bound
grants. Two priorities under which it keeps the best score of every model of two tasks are
priorities that are not worth more. -/
theorem pruning_keeps_best (options : OptimizationOptions) :
    (∀ model index, (solve model index options).ok = (exhaustiveSolve model index options).ok) ∧
    (∀ model, CutsCovered model options → KeepsBestScore model options) ∧
    (∀ model, BoundCovers model options → CutsCovered model options) ∧
    ∀ p q : Priority,
      (∀ model : OptimizationModel, model.tasks.map OptimizerTask.priority = [p, q] →
        KeepsBestScore model options) ↔
        p * options.objective.priorityWeight ≤ kPriorityOptimizationUpperBoundPerTask ∧
          q * options.objective.priorityWeight ≤ kPriorityOptimizationUpperBoundPerTask := by
  refine ⟨fun _ _ => solve_ok_eq_exhaustive, fun _ => keepsBestScore_of_cutsCovered,
    fun _ => cutsCovered_of_boundCovers, fun p q => ?_⟩
  constructor
  · intro hkeeps
    by_contra hworth
    rw [not_and_or, not_le, not_le] at hworth
    rcases hworth with hworth | hworth
    · exact relay_loses_best q p true options hworth (hkeeps _ rfl)
    · exact relay_loses_best p q false options hworth (hkeeps _ rfl)
  · rintro ⟨hp, hq⟩ model hpriorities
    apply keepsBestScore_of_cutsCovered
    apply cutsCovered_of_boundCovers
    intro task htask
    have hmem : task.priority ∈ [p, q] := hpriorities ▸ List.mem_map_of_mem htask
    rcases List.mem_cons.mp hmem with heq | hmem
    · rw [heq]
      exact hp
    · rw [List.mem_singleton.mp hmem]
      exact hq

/-- Three mandatory tasks of high priorities on one actor, one after the other. -/
def mandatoryModel : OptimizationModel where
  actors := [{ id := "x", availabilityWindows := [{ start := 0, stop := 9 }] }]
  tasks :=
    [{ id := "a", duration := 3, priority := 2000, mandatory := true },
      { id := "b", duration := 3, priority := 3000, mandatory := true },
      { id := "c", duration := 3, priority := 4000, mandatory := true }]

/-- A search along a single path never asks for the bound. -/
theorem pruning_keeps_best_mandatory :
    ¬BoundCovers mandatoryModel { allowPartialPlan := false } ∧
      CutsCovered mandatoryModel { allowPartialPlan := false } ∧
      KeepsBestScore mandatoryModel { allowPartialPlan := false } ∧
        KeepsBestScore (relay 7 1000 true) {} := by
  have hcovered : CutsCovered mandatoryModel { allowPartialPlan := false } :=
    cutsCovered_of_visits (by decide)
  obtain ⟨-, hkeeps, -, -⟩ := pruning_keeps_best { allowPartialPlan := false }
  obtain ⟨-, -, -, hpair⟩ := pruning_keeps_best {}
  exact ⟨by decide, hcovered, hkeeps _ hcovered,
    (hpair 1000 7).mpr (by decide) (relay 7 1000 true) rfl⟩

/-- With the default weight, a priority of 1001 is worth more than the bound grants. -/
theorem pruning_loses_best : ¬KeepsBestScore (relay 7 1001 false) {} :=
  relay_loses_best 7 1001 false {} (by decide)

end TaskOrchestrator.Optimizer
