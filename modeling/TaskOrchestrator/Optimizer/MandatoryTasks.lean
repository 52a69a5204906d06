import TaskOrchestrator.Optimizer.UnknownDependencies
import TaskOrchestrator.Optimizer.Optimality

/-!
# Mandatory tasks without partial plans

Without partial plans no branch leaves out a mandatory task. It can still go missing: it is
dropped along with an optional task that it depends on, and it never becomes ready if it depends
on an unknown id or on itself. The formulation has a constraint for each mandatory task.
-/

namespace TaskOrchestrator.Optimizer

open Library
open TaskOrchestrator.Core hiding earliestStart earliestStart_sound

set_option autoImplicit false

variable {model other : OptimizationModel} {index : ConstraintIndex} {options : OptimizationOptions}

inductive Grounded (model : OptimizationModel) : TaskId → Prop where
  | intro {id : TaskId} (known : ∃ task ∈ model.tasks, task.id = id)
    (mandatory : ∀ task ∈ model.tasks, task.id = id → task.mandatory = true)
    (dependencies : ∀ task ∈ model.tasks, task.id = id →
      ∀ dep ∈ task.dependencyTaskIds, Grounded model dep) :
    Grounded model id

section Dropped

variable (hpartialPlan : options.allowPartialPlan = false)

include hpartialPlan in
theorem dropped_not_grounded {s : SearchState}
    (h : (searchTree model index options).Below (dropDescendantsIfBlocked model (rootState model))
      s) :
    ∀ id ∈ s.dropped, ¬Grounded model id := by
  have hcascade : ∀ s : SearchState, (∀ id ∈ s.dropped, ¬Grounded model id) →
      ∀ id ∈ (dropDescendantsIfBlocked model s).dropped, ¬Grounded model id := by
    intro s hs
    apply dropPasses_keeps (P := fun s : SearchState => ∀ id ∈ s.dropped, ¬Grounded model id) _ _ hs
    intro s task htask hs _ _ hblocked id hid
    rcases List.mem_insert_iff.mp hid with rfl | hid
    · rintro ⟨-, -, hdependencies⟩
      obtain ⟨dep, hdep, hdropped⟩ := List.any_eq_true.mp hblocked
      exact hs dep (of_decide_eq_true hdropped) (hdependencies task htask rfl dep hdep)
    · exact hs id hid
  apply h.invariant (hcascade _ (by simp [rootState]))
  rintro s u hs ⟨nodes, child, hnodes, hchild, rfl⟩
  apply hcascade
  cases hready : readyTasks model s with
  | nil =>
    rw [searchTree_children_nil hready] at hnodes
    exact absurd hnodes (by simp)
  | cons task rest =>
    have htask : IsReady model s task := isReady_of_mem (hready ▸ List.mem_cons_self)
    rw [searchTree_children_cons hready] at hnodes
    obtain rfl := Option.some.inj hnodes
    rcases List.mem_append.mp hchild with hplaced | hdropped
    · obtain ⟨candidate, -, rfl⟩ := List.mem_map.mp hplaced
      exact hs
    · split_ifs at hdropped with hoptional
      · obtain rfl := List.mem_singleton.mp hdropped
        intro id hid
        rcases List.mem_insert_iff.mp hid with rfl | hid
        · rintro ⟨-, hmandatory, -⟩
          rw [hpartialPlan, hmandatory task htask.mem rfl] at hoptional
          exact Bool.false_ne_true hoptional
        · exact hs id hid
      · exact absurd hdropped (by simp)

include hpartialPlan in
theorem grounded_scheduled {s : SearchState} (hleaf : IsLeaf model index options s) {id : TaskId}
    (h : Grounded model id) : id ∈ s.scheduled := by
  have hdropped := dropped_not_grounded hpartialPlan hleaf.below
  induction h with
  | @intro id known mandatory dependencies ih =>
    have hgrounded : Grounded model id := .intro known mandatory dependencies
    obtain ⟨task, htask, rfl⟩ := known
    by_contra hscheduled
    have hnotDropped : ∀ dep ∈ task.dependencyTaskIds, dep ∉ s.dropped := fun dep hdep hmem =>
      hdropped dep hmem (dependencies task htask rfl dep hdep)
    have hready : task ∈ readyTasks model s :=
      mem_readyTasks_of_isReady
        { mem := htask
          notScheduled := hscheduled
          notDropped := fun hmem => hdropped task.id hmem hgrounded
          dependencies := ih task htask rfl } hnotDropped
    rw [noneReady_iff.mp hleaf.noneReady] at hready
    exact absurd hready List.not_mem_nil

end Dropped

theorem solve_placesMandatory
    (hgrounded : ∀ task ∈ model.tasks, task.mandatory = true → Grounded model task.id)
    (hok : (solve model index options).ok = true) :
    PlacesMandatory model options (solve model index options).assignments := by
  intro hpartialPlan task htask hmandatory
  obtain ⟨state, hleaf, hassignments, -⟩ := solve_leaf hok
  rw [hassignments]
  have hscheduled := scheduled_kept.below (by simp [SearchState.schedule, rootState]) hleaf.below
  exact (hscheduled task.id).mp
    (grounded_scheduled hpartialPlan hleaf (hgrounded task htask hmandatory))

theorem decode_placesMandatory {selection : Nat → Bool}
    (h : Satisfies (formulationOf model options) selection) (backendName : String)
    (stats : OptimizationStats) :
    PlacesMandatory model options (decodeSelectedOptions (formulationOf model options)
      (collectSelectedOptionIndexes (formulationOf model options) selection) backendName
      stats).assignments := by
  intro hpartialPlan task htask hmandatory
  obtain ⟨position, hposition⟩ := List.mem_iff_getElem?.mp htask
  obtain ⟨place, hplace, rfl⟩ :=
    (satisfies_iff_optionPlan.mp h).mandatory hpartialPlan position task hposition hmandatory
  obtain ⟨owner, howner, hid⟩ := task_of_option (mem_allOptions_of_chosen selection hplace)
  obtain rfl := Option.some.inj (howner.symm.trans hposition)
  obtain ⟨hperm, -⟩ := @decode_chosen model options selection backendName stats
  exact ⟨place.assignment, hperm.mem_iff.mpr (List.mem_map_of_mem hplace), hid⟩

def OptimizerTask.shape (task : OptimizerTask) : TaskId × Bool × List TaskId :=
  (task.id, task.mandatory, task.dependencyTaskIds)

def SameShape (model other : OptimizationModel) : Prop :=
  other.tasks.map OptimizerTask.shape = model.tasks.map OptimizerTask.shape

theorem SameShape.exists_task (h : SameShape model other) {task : OptimizerTask}
    (htask : task ∈ other.tasks) :
    ∃ twin ∈ model.tasks, twin.id = task.id ∧ twin.mandatory = task.mandatory ∧
      twin.dependencyTaskIds = task.dependencyTaskIds := by
  have hmem : task.shape ∈ model.tasks.map OptimizerTask.shape := h ▸ List.mem_map_of_mem htask
  obtain ⟨twin, htwin, hshape⟩ := List.mem_map.mp hmem
  simp only [OptimizerTask.shape, Prod.mk.injEq] at hshape
  exact ⟨twin, htwin, hshape⟩

theorem Grounded.of_sameShape {id : TaskId} (h : Grounded model id)
    (hshape : SameShape model other) :
    Grounded other id := by
  induction h with
  | @intro id known mandatory dependencies ih =>
    refine .intro ?_ ?_ ?_
    · obtain ⟨task, htask, rfl⟩ := known
      obtain ⟨twin, htwin, hid, -⟩ := @SameShape.exists_task other _ hshape.symm _ htask
      exact ⟨twin, htwin, hid⟩
    · intro task htask hid
      obtain ⟨twin, htwin, htwinId, hmandatory, -⟩ := hshape.exists_task htask
      exact hmandatory ▸ mandatory twin htwin (htwinId.trans hid)
    · intro task htask hid dep hdep
      obtain ⟨twin, htwin, htwinId, -, hdependencies⟩ := hshape.exists_task htask
      exact ih twin htwin (htwinId.trans hid) dep (hdependencies ▸ hdep)

/-- A task of the same shape that an actor of capacity one takes only if it is mandatory. -/
def narrowTask (task : OptimizerTask) : OptimizerTask where
  id := task.id
  demand := if task.mandatory then 1 else 2
  mandatory := task.mandatory
  dependencyTaskIds := task.dependencyTaskIds

def narrowModel (model : OptimizationModel) : OptimizationModel where
  actors := [{ id := "x" }]
  tasks := model.tasks.map narrowTask

theorem narrowModel_sameShape (model : OptimizationModel) :
    SameShape model (narrowModel model) := by
  rw [SameShape, narrowModel, List.map_map]
  rfl

section Narrow

variable (hunique : (model.tasks.map OptimizerTask.id).Nodup)

include hunique in
theorem narrowModel_unique : (narrowModel model).UniqueIds where
  tasks := by
    rw [narrowModel, List.map_map]
    exact hunique
  actors := List.nodup_singleton _

include hunique in
theorem narrowModel_candidates {task : OptimizerTask} (htask : task ∈ (narrowModel model).tasks)
    (hmandatory : task.mandatory = true) (s : SearchState) :
    candidatesForTask task (ConstraintIndex.build (narrowModel model)) s ≠ [] := by
  have hmem := htask
  obtain ⟨twin, -, rfl⟩ := List.mem_map.mp htask
  have hdemand : (narrowTask twin).demand ≤ ({ id := "x" } : OptimizerActor).capacity := by
    have hone : (if twin.mandatory then 1 else 2 : Int) = 1 := if_pos hmandatory
    exact le_of_eq hone
  have hstart : earliestStart { id := "x" } (reservationsOf s.reservations "x")
      (max (narrowTask twin).releaseTime (dependencyReady (narrowTask twin) s))
      (narrowTask twin).duration
      (narrowTask twin).demand = some (max 0 (dependencyReady (narrowTask twin) s)) :=
        if_pos (le_refl (0 : Duration))
  obtain ⟨candidate, hcandidate, -⟩ :=
    exists_candidateOn hdemand (by simp [narrowTask]) hstart (by simp [narrowTask])
    (by simp [narrowTask])
  have hoffered :=
    mem_candidatesForTask (narrowModel_unique hunique) hmem (List.mem_singleton_self _)
    ⟨Or.inl rfl, Or.inl rfl⟩ rfl hcandidate
  exact List.ne_nil_of_mem hoffered

include hunique in
theorem narrowModel_ok :
    (solve (narrowModel model) (ConstraintIndex.build (narrowModel model)) options).ok = true := by
  rw [solve_ok_iff]
  apply haveBest_of_children
  intro s task rest hready
  have htask := (isReady_of_mem (hready ▸ List.mem_cons_self)).mem
  cases hmandatory : task.mandatory with
  | true => exact Or.inl (narrowModel_candidates hunique htask hmandatory s)
  | false => exact Or.inr (by simp)

include hunique in
theorem narrowModel_scheduled :
    KeptBySearch (narrowModel model) (ConstraintIndex.build (narrowModel model))
      fun s => ∀ id ∈ s.scheduled, Grounded (narrowModel model) id where
  drop := fun _ _ _ hs _ _ => hs
  place := by
    intro s task candidate hcandidate hs hready id hid
    rcases List.mem_insert_iff.mp hid with rfl | hid
    · have hsame : ∀ twin ∈ (narrowModel model).tasks, twin.id = task.id → twin = task :=
        fun twin htwin hid =>
        List.inj_on_of_nodup_map (narrowModel_unique hunique).tasks htwin hready.mem hid
      obtain ⟨-, actor, hoffers⟩ := offers_of_mem hcandidate
      have hactor :=
        ((mem_eligibleActorsForTask (narrowModel_unique hunique) hready.mem actor).mp
          hoffers.eligible).1
      obtain rfl := List.mem_singleton.mp hactor
      refine .intro ⟨task, hready.mem, rfl⟩ ?_ ?_
      · intro twin htwin hid
        rw [hsame twin htwin hid]
        have hdemand := hoffers.demand
        obtain ⟨original, -, rfl⟩ := List.mem_map.mp hready.mem
        by_contra hoptional
        have htwo : (if original.mandatory then 1 else 2 : Int) = 2 := if_neg hoptional
        have hone : (if original.mandatory then 1 else 2 : Int) ≤ 1 := hdemand
        omega
      · intro twin htwin hid dep hdep
        rw [hsame twin htwin hid] at hdep
        exact hs dep (hready.dependencies dep hdep)
    · exact hs id hid

end Narrow

/-- Without partial plans a good solution has every mandatory task, if all of them are grounded.
Otherwise some model with the same ids, flags and dependencies has a good solution without one.
What a satisfying selection of the formulation stands for has every mandatory task anyway. -/
theorem mandatory_placed_iff (model : OptimizationModel) (options : OptimizationOptions)
    (hpartialPlan : options.allowPartialPlan = false) :
    ((∀ task ∈ model.tasks, task.mandatory = true → Grounded model task.id) →
      (solve model (ConstraintIndex.build model) options).ok = true →
        PlacesMandatory model options
        (solve model (ConstraintIndex.build model) options).assignments) ∧
    ((model.tasks.map OptimizerTask.id).Nodup →
      ((∀ other, SameShape model other →
        (solve other (ConstraintIndex.build other) options).ok = true →
          PlacesMandatory other options
          (solve other (ConstraintIndex.build other) options).assignments) ↔
        ∀ task ∈ model.tasks, task.mandatory = true → Grounded model task.id)) ∧
    ∀ selection backendName stats, Satisfies (formulationOf model options) selection →
      PlacesMandatory model options (decodeSelectedOptions (formulationOf model options)
        (collectSelectedOptionIndexes (formulationOf model options) selection) backendName
        stats).assignments := by
  refine ⟨solve_placesMandatory, fun hunique => ⟨?_, ?_⟩, fun _ name stats h =>
    decode_placesMandatory h name stats⟩
  · intro hplaces task htask hmandatory
    have hshape := narrowModel_sameShape model
    obtain ⟨twin, htwin, hid, hsame, -⟩ :=
      @SameShape.exists_task (narrowModel model) _ hshape.symm _ htask
    have hok := @narrowModel_ok _ options hunique
    obtain ⟨a, ha, htwinId⟩ := hplaces _ hshape hok hpartialPlan twin htwin (hsame.trans hmandatory)
    obtain ⟨state, hleaf, hassignments, -⟩ := solve_leaf hok
    rw [hassignments] at ha
    have hscheduled := scheduled_kept.below (by simp [SearchState.schedule, rootState]) hleaf.below
    have hgrounded := (narrowModel_scheduled hunique).below (by simp [rootState]) hleaf.below
    rw [← hid]
    exact (hgrounded twin.id ((hscheduled twin.id).mpr ⟨a, ha, htwinId⟩)).of_sameShape hshape.symm
  · intro hgrounded other hshape
    apply solve_placesMandatory
    intro task htask hmandatory
    obtain ⟨twin, htwin, hid, hsame, -⟩ := hshape.exists_task htask
    rw [← hid]
    exact (hgrounded twin htwin (hsame.trans hmandatory)).of_sameShape hshape

def groundedModel : OptimizationModel where
  actors := [{ id := "x", availabilityWindows := [{ start := 0, stop := 10 }] }]
  tasks := [{ id := "a", duration := 2 }, { id := "b", duration := 3, dependencyTaskIds := ["a"] }]

def noPartialPlan : OptimizationOptions := { allowPartialPlan := false }

theorem mandatory_placed_grounded :
    (solve groundedModel (ConstraintIndex.build groundedModel) noPartialPlan).ok = true ∧
      PlacesMandatory groundedModel noPartialPlan
        (solve groundedModel (ConstraintIndex.build groundedModel) noPartialPlan).assignments := by
  have ha : Grounded groundedModel "a" := by
    refine .intro (by decide) (by decide) ?_
    have hfirst : ∀ task ∈ groundedModel.tasks, task.id = "a" → task.dependencyTaskIds = [] := by
      decide
    intro task htask hid dep hdep
    rw [hfirst task htask hid] at hdep
    exact absurd hdep List.not_mem_nil
  have hb : Grounded groundedModel "b" := by
    refine .intro (by decide) (by decide) ?_
    have hsecond : ∀ task ∈ groundedModel.tasks, task.id = "b" → task.dependencyTaskIds = ["a"] :=
      by decide
    intro task htask hid dep hdep
    rw [hsecond task htask hid] at hdep
    exact List.mem_singleton.mp hdep ▸ ha
  have hgrounded : ∀ task ∈ groundedModel.tasks, task.mandatory = true →
      Grounded groundedModel task.id := by
    intro task htask _
    rcases List.mem_cons.mp htask with rfl | htask
    · exact ha
    · exact List.mem_singleton.mp htask ▸ hb
  have hok : (solve groundedModel (ConstraintIndex.build groundedModel) noPartialPlan).ok = true :=
    by decide
  exact ⟨hok, (mandatory_placed_iff groundedModel noPartialPlan rfl).1 hgrounded hok⟩

def optionalAncestor : OptimizationModel where
  actors := [{ id := "x", availabilityWindows := [{ start := 0, stop := 10 }] }]
  tasks := [{ id := "a", duration := 2, demand := 2, mandatory := false },
    { id := "b", duration := 3, dependencyTaskIds := ["a"] }]

theorem mandatory_lost_with_ancestor :
    let solution := solve optionalAncestor (ConstraintIndex.build optionalAncestor) noPartialPlan
    solution.ok = true ∧ solution.unfulfilledTaskIds = ["a", "b"] ∧
      ¬PlacesMandatory optionalAncestor noPartialPlan solution.assignments := by
  intro solution
  have hnone : solution.assignments = [] := by decide
  refine ⟨by decide, by decide, fun hplaces => ?_⟩
  obtain ⟨a, ha, -⟩ := hplaces rfl { id := "b", duration := 3, dependencyTaskIds := ["a"] }
    (by simp [optionalAncestor]) rfl
  rw [hnone] at ha
  exact absurd ha List.not_mem_nil

end TaskOrchestrator.Optimizer
