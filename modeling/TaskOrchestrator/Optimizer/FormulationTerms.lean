import TaskOrchestrator.Optimizer.Formulation

/-!
# The terms of the discrete-time formulation

What the options, the decisions and the slots of a built formulation are, and what the linear
expressions over them come to for a selection: sums over the options that are chosen.
-/

namespace TaskOrchestrator.Optimizer

open Library
open TaskOrchestrator.Core hiding earliestStart

set_option autoImplicit false

variable {model : OptimizationModel} {index : ConstraintIndex} {options : OptimizationOptions}

theorem le_latestFeasibleStart {task : OptimizerTask} {window : AvailabilityWindow} {start : Time} :
    (∃ last ∈ latestFeasibleStart task window, start ≤ last) ↔
      task.duration ≤ window.stop ∧ start + task.duration ≤ window.stop ∧
        (∀ latest ∈ task.latestStartTime, start ≤ latest) ∧
          ∀ deadline ∈ task.deadline, start + task.duration ≤ deadline := by
  unfold latestFeasibleStart
  split_ifs with hshort
  · constructor
    · rintro ⟨last, hlast, -⟩
      exact absurd hlast (by simp)
    · intro h
      exact absurd h.1 (not_le.mpr hshort)
  · rw [not_lt] at hshort
    have hstop : start ≤ window.stop - task.duration ↔ start + task.duration ≤ window.stop :=
      le_sub_iff_add_le
    cases task.latestStartTime with
    | none =>
      cases task.deadline with
      | none => simp [hshort, hstop]
      | some deadline =>
        have hdeadline : start ≤ deadline - task.duration ↔ start + task.duration ≤ deadline :=
          le_sub_iff_add_le
        simp [hshort, hstop, hdeadline]
    | some latest =>
      cases task.deadline with
      | none => simp [hshort, hstop]
      | some deadline =>
        have hdeadline : start ≤ deadline - task.duration ↔ start + task.duration ≤ deadline :=
          le_sub_iff_add_le
        simp [hshort, hstop, hdeadline]

/-- The option is one for the task on the actor, and fits both. -/
structure IsOptionOf (model : OptimizationModel) (option : DiscreteOption) (task : OptimizerTask)
    (actor : OptimizerActor) : Prop where
  taskAt : model.tasks[option.taskIndex]? = some task
  actorAt : model.actors[option.actorIndex]? = some actor
  taskId : option.taskId = task.id
  actorId : option.actorId = actor.id
  demand : option.demand = task.demand
  fits : Fits task actor option.assignment

theorem findIdx_actor (hunique : model.UniqueIds) {actor : OptimizerActor} {position : Nat} :
    (model.actors.findIdx? fun other => other.id = actor.id) = some position →
      actor ∈ model.actors → model.actors[position]? = some actor := by
  intro hfind hactor
  obtain ⟨hlt, hid, -⟩ := List.findIdx?_eq_some_iff_getElem.mp hfind
  have hsame : model.actors[position] = actor :=
    hunique.actor_eq (List.getElem_mem hlt) hactor (by simpa using hid)
  rw [List.getElem?_eq_getElem hlt, hsame]

theorem mem_windowOptions {taskIndex actorIndex : Nat} {task : OptimizerTask}
    {actor : OptimizerActor} {window : AvailabilityWindow} {option : DiscreteOption}
    (h : option ∈ windowOptions options taskIndex task actorIndex actor window) :
    option.taskIndex = taskIndex ∧ option.actorIndex = actorIndex ∧ option.taskId = task.id ∧
      option.actorId = actor.id ∧ option.demand = task.demand ∧
      option.endTime = option.startTime + task.duration ∧ window.start ≤ option.startTime ∧
      task.releaseTime ≤ option.startTime ∧
        ∃ last ∈ latestFeasibleStart task window, option.startTime ≤ last := by
  unfold windowOptions at h
  dsimp only at h
  split at h
  · exact absurd h (by simp)
  · rename_i last hlast
    obtain ⟨start, hstart, rfl⟩ := List.mem_map.mp h
    obtain ⟨hfirst, hbefore⟩ := Int.mem_range_iff.mp hstart
    obtain ⟨hwindow, hrelease⟩ := max_le_iff.mp hfirst
    exact ⟨rfl, rfl, rfl, rfl, rfl, rfl, hwindow, hrelease, last, hlast,
      Int.le_of_lt_add_one hbefore⟩

theorem mem_taskOptions (hunique : model.UniqueIds) {taskIndex : Nat} {task : OptimizerTask}
    (htask : model.tasks[taskIndex]? = some task) {option : DiscreteOption}
    (h : option ∈ taskOptions model (ConstraintIndex.build model) options taskIndex task) :
    ∃ actor, option.taskIndex = taskIndex ∧ IsOptionOf model option task actor := by
  obtain ⟨actor, heligible, hactorOptions⟩ := List.mem_flatMap.mp h
  obtain ⟨hactor, hallows⟩ :=
    (mem_eligibleActorsForTask hunique (List.mem_of_getElem? htask) actor).mp heligible
  unfold actorOptions at hactorOptions
  split_ifs at hactorOptions with hunfit
  · exact absurd hactorOptions (by simp)
  · rw [not_or, Bool.not_eq_false] at hunfit
    split at hactorOptions
    · exact absurd hactorOptions (by simp)
    · rename_i position hposition
      obtain ⟨window, hwindow, hoption⟩ := List.mem_flatMap.mp hactorOptions
      obtain ⟨htaskIndex, hactorIndex, htaskId, hactorId, hdemand, hends, hstart,
          hrelease, hlast⟩ :=
        mem_windowOptions hoption
      obtain ⟨-, hstop, hlatest, hdeadline⟩ := le_latestFeasibleStart.mp hlast
      rw [← hends] at hstop hdeadline
      refine ⟨actor, htaskIndex, htaskIndex ▸ htask, hactorIndex ▸
        findIdx_actor hunique hposition hactor, htaskId, hactorId, hdemand, hallows,
        ?_, not_lt.mp hunfit.1, hrelease, hlatest, hends, hdeadline, fun _ =>
        ⟨window, hwindow, hstart, hstop⟩⟩
      simpa [taskCapabilitiesSupported] using hunfit.2

theorem exists_taskOption (hunique : model.UniqueIds) {taskIndex : Nat} {task : OptimizerTask}
    (htask : model.tasks[taskIndex]? = some task) {actor : OptimizerActor}
    (hactor : actor ∈ model.actors) {a : OptimizedAssignment} (htaskId : task.id = a.taskId)
    (hactorId : actor.id = a.actorId) (hfits : Fits task actor a) (hduration : 1 ≤ task.duration)
    (hreleased : 0 ≤ task.releaseTime) :
    ∃ option ∈ taskOptions model (ConstraintIndex.build model) options taskIndex task,
      option.assignment = a := by
  have hmem := List.mem_of_getElem? htask
  have heligible := (mem_eligibleActorsForTask hunique hmem actor).mpr ⟨hactor, hfits.allows⟩
  obtain ⟨window, hwindow, hstart, hstop⟩ := hfits.window (lt_of_lt_of_le Int.zero_lt_one hduration)
  have hlong : task.duration ≤ window.stop := by
    have hnonneg := hreleased.trans hfits.released
    have hends := hfits.ends
    have hle : (0 : Int) + task.duration ≤ a.startTime + task.duration :=
      Int.add_le_add_right hnonneg _
    rw [Int.zero_add, ← hends] at hle
    exact hle.trans hstop
  obtain ⟨last, hlast, hbefore⟩ := le_latestFeasibleStart.mpr
    ⟨hlong, hfits.ends ▸ hstop, hfits.latestStart, hfits.ends ▸ hfits.deadline⟩
  obtain ⟨position, hposition⟩ :
      ∃ position, (model.actors.findIdx? fun other => other.id = actor.id) = some position :=
    ⟨_, List.findIdx?_eq_some_of_exists ⟨actor, hactor, decide_eq_true rfl⟩⟩
  have hfit : ¬ (task.demand > actor.capacity ∨ taskCapabilitiesSupported task actor = false) := by
    rw [not_or, Bool.not_eq_false]
    exact ⟨not_lt.mpr hfits.demand, by simpa [taskCapabilitiesSupported] using hfits.capable⟩
  have hin : ∃ option ∈ windowOptions options taskIndex task position actor window,
      option.assignment = a := by
    have hlast' : latestFeasibleStart task window = some last := hlast
    simp only [windowOptions, hlast']
    refine ⟨_,
      List.mem_map_of_mem
      (Int.mem_range_iff.mpr ⟨max_le hstart hfits.released, Int.lt_add_one_of_le hbefore⟩), ?_⟩
    have hends := hfits.ends
    cases a with
    | mk taskId actorId startTime endTime =>
      dsimp only at htaskId hactorId hends
      simp only [DiscreteOption.assignment, htaskId, hactorId, hends]
  obtain ⟨option, hoption, heq⟩ := hin
  refine ⟨option, List.mem_flatMap.mpr ⟨actor, heligible, ?_⟩, heq⟩
  rw [actorOptions, if_neg hfit, hposition]
  exact List.mem_flatMap.mpr ⟨window, hwindow, hoption⟩

theorem optionIndex_of_getElem {position : Nat} {option : DiscreteOption}
    (h : (allOptions model index options)[position]? = some option) :
    option.optionIndex = position := by
  rw [allOptions, List.getElem?_mapIdx] at h
  obtain ⟨raw, -, rfl⟩ := Option.map_eq_some_iff.mp h
  rfl

theorem getElem_optionIndex {option : DiscreteOption}
    (h : option ∈ allOptions model index options) :
    (allOptions model index options)[option.optionIndex]? = some option := by
  obtain ⟨position, hposition⟩ := List.mem_iff_getElem?.mp h
  rwa [optionIndex_of_getElem hposition]

theorem task_of_option {option : DiscreteOption} (h : option ∈ allOptions model index options) :
    ∃ task, model.tasks[option.taskIndex]? = some task ∧ option.taskId = task.id := by
  obtain ⟨position, hlt, rfl⟩ := List.mem_mapIdx.mp h
  obtain ⟨entry, hentry, hraw⟩ := List.mem_flatMap.mp (List.getElem_mem hlt)
  obtain ⟨actor, -, hactorOptions⟩ := List.mem_flatMap.mp hraw
  unfold actorOptions at hactorOptions
  split_ifs at hactorOptions
  · exact absurd hactorOptions (by simp)
  · split at hactorOptions
    · exact absurd hactorOptions (by simp)
    · obtain ⟨window, -, hoption⟩ := List.mem_flatMap.mp hactorOptions
      obtain ⟨htaskIndex, -, htaskId, -⟩ := mem_windowOptions hoption
      exact ⟨entry.1, htaskIndex ▸ List.mem_zipIdx_iff_getElem?.mp hentry, htaskId⟩

theorem mem_allOptions (hunique : model.UniqueIds) {option : DiscreteOption}
    (h : option ∈ allOptions model (ConstraintIndex.build model) options) :
    ∃ task actor, IsOptionOf model option task actor := by
  obtain ⟨position, hlt, rfl⟩ := List.mem_mapIdx.mp h
  obtain ⟨entry, hentry, hraw⟩ := List.mem_flatMap.mp (List.getElem_mem hlt)
  obtain ⟨actor, -, htask, hactor, htaskId, hactorId, hdemand, hfits⟩ :=
    mem_taskOptions hunique (List.mem_zipIdx_iff_getElem?.mp hentry) hraw
  exact ⟨entry.1, actor, htask, hactor, htaskId, hactorId, hdemand, hfits⟩

theorem exists_option (hunique : model.UniqueIds) {task : OptimizerTask}
    (htask : task ∈ model.tasks) {actor : OptimizerActor} (hactor : actor ∈ model.actors)
    {a : OptimizedAssignment} (htaskId : task.id = a.taskId) (hactorId : actor.id = a.actorId)
    (hfits : Fits task actor a) (hduration : 1 ≤ task.duration) (hreleased : 0 ≤ task.releaseTime) :
    ∃ option ∈ allOptions model (ConstraintIndex.build model) options, option.assignment = a := by
  obtain ⟨taskIndex, htaskIndex⟩ := List.mem_iff_getElem?.mp htask
  obtain ⟨raw, hraw, rfl⟩ :
      ∃ raw ∈ taskOptions model (ConstraintIndex.build model) options taskIndex task,
      raw.assignment = a :=
    exists_taskOption hunique htaskIndex hactor htaskId hactorId hfits hduration hreleased
  have hmem : raw ∈ model.tasks.zipIdx.flatMap fun entry =>
      taskOptions model (ConstraintIndex.build model) options entry.2 entry.1 :=
    List.mem_flatMap.mpr ⟨(task, taskIndex), List.mem_zipIdx_iff_getElem?.mpr htaskIndex, hraw⟩
  obtain ⟨position, hlt, rfl⟩ := List.mem_iff_getElem.mp hmem
  exact ⟨_, List.mem_mapIdx.mpr ⟨position, hlt, rfl⟩, rfl⟩

section Sums

variable (model index options) (selection : Nat → Bool)

def chosen : List DiscreteOption :=
  (allOptions model index options).filter fun option => selection option.optionIndex

def chosenFor (taskIndex : Nat) : List DiscreteOption :=
  (chosen model index options selection).filter fun option => option.taskIndex = taskIndex

variable {model index options}

theorem mem_chosenFor {taskIndex : Nat} {option : DiscreteOption} :
    option ∈ chosenFor model index options selection taskIndex ↔
      option ∈ chosen model index options selection ∧ option.taskIndex = taskIndex := by
  simp [chosenFor]

theorem mem_allOptions_of_chosen {option : DiscreteOption}
    (h : option ∈ chosen model index options selection) :
    option ∈ allOptions model index options :=
  (List.mem_filter.mp h).1

theorem linearSum_map (coefficient : DiscreteOption → Int) {xs : List DiscreteOption}
    (hxs : ∀ option ∈ xs, option ∈ allOptions model index options) :
    linearSum (buildDiscreteTimeFormulation model index options) selection coefficient
        (xs.map DiscreteOption.optionIndex) =
      ((xs.filter fun option => selection option.optionIndex).map coefficient).sum := by
  induction xs with
  | nil => rfl
  | cons option rest ih =>
    have hrest := ih fun other hother => hxs other (List.mem_cons_of_mem _ hother)
    have hself : (buildDiscreteTimeFormulation model index options).options[option.optionIndex]? =
        some option :=
      getElem_optionIndex (hxs option List.mem_cons_self)
    rw [linearSum] at hrest ⊢
    rw [List.map_cons, List.map_cons, List.sum_cons, hrest, hself, List.filter_cons, optionValue]
    split_ifs with hselected
    · simp
    · simp

theorem find_taskDecision {taskIndex : Nat} {task : OptimizerTask}
    (htask : model.tasks[taskIndex]? = some task) :
    ((buildDiscreteTimeFormulation model index options).taskDecisions.find? fun decision =>
      decision.taskIndex = taskIndex) = some (taskDecision model index options taskIndex task) := by
  have hnodup : ((buildDiscreteTimeFormulation model index options).taskDecisions.map
      DiscreteTaskDecision.taskIndex).Nodup := by
    have hpositions : (buildDiscreteTimeFormulation model index options).taskDecisions.map
        DiscreteTaskDecision.taskIndex = model.tasks.zipIdx.map Prod.snd := by
      simp only [buildDiscreteTimeFormulation, List.map_map]
      rfl
    rw [hpositions, List.zipIdx_map_snd]
    exact List.nodup_range'
  refine (KeyedRows.get?_eq_some_iff ⟨_, hnodup⟩ taskIndex _).mpr ⟨?_, rfl⟩
  exact List.mem_map.mpr ⟨(task, taskIndex), List.mem_zipIdx_iff_getElem?.mpr htask, rfl⟩

theorem linearSum_taskDecision (coefficient : DiscreteOption → Int) (taskIndex : Nat)
    (task : OptimizerTask) :
    linearSum (buildDiscreteTimeFormulation model index options) selection coefficient
        (taskDecision model index options taskIndex task).optionIndexes =
      ((chosenFor model index options selection taskIndex).map coefficient).sum := by
  rw [taskDecision, linearSum_map selection coefficient fun option hoption =>
    (List.mem_filter.mp hoption).1, List.filter_comm]
  rfl

theorem taskSum_eq (coefficient : DiscreteOption → Int) {taskIndex : Nat} {task : OptimizerTask}
    (htask : model.tasks[taskIndex]? = some task) :
    taskSum (buildDiscreteTimeFormulation model index options) selection coefficient taskIndex =
      ((chosenFor model index options selection taskIndex).map coefficient).sum := by
  rw [taskSum, find_taskDecision htask]
  exact linearSum_taskDecision selection coefficient taskIndex task

theorem taskSelected_eq {taskIndex : Nat} {task : OptimizerTask}
    (htask : model.tasks[taskIndex]? = some task) :
    taskSelected (buildDiscreteTimeFormulation model index options) selection taskIndex =
      (chosenFor model index options selection taskIndex).length := by
  rw [taskSelected, taskSum_eq selection _ htask]
  simp

end Sums

def TakesSlot (actorIndex : Nat) (time : Time) (option : DiscreteOption) : Prop :=
  option.actorIndex = actorIndex ∧ option.startTime ≤ time ∧ time < option.endTime

instance (actorIndex : Nat) (time : Time) (option : DiscreteOption) :
    Decidable (TakesSlot actorIndex time option) :=
  inferInstanceAs (Decidable (_ ∧ _))

theorem filter_range_eq (start stop time : Time) :
    (Int.range start stop).filter (fun t => t = time) =
      if start ≤ time ∧ time < stop then [time] else [] := by
  have hnodup : (Int.range start stop).Nodup := by
    apply List.Nodup.map _ List.nodup_range
    intro a b heq
    exact Int.ofNat.inj (Int.add_left_cancel heq)
  split_ifs with hin
  · have hmem : time ∈ Int.range start stop := Int.mem_range_iff.mpr hin
    rw [List.filter_eq, List.count_eq_one_of_mem hnodup hmem]
    rfl
  · rw [List.filter_eq_nil_iff]
    intro t ht heq
    obtain rfl := of_decide_eq_true heq
    exact hin (Int.mem_range_iff.mp ht)

theorem filter_covered (xs : List DiscreteOption) (actorIndex : Nat) (time : Time) :
    ((xs.flatMap fun option => (Int.range option.startTime option.endTime).map fun t =>
      (option, t)).filter
      fun entry => (entry.1.actorIndex, entry.2) = (actorIndex, time)).map Prod.fst =
        xs.filter fun option => TakesSlot actorIndex time option := by
  induction xs with
  | nil => rfl
  | cons option rest ih =>
    rw [List.flatMap_cons, List.filter_append, List.map_append, ih, List.filter_cons,
      List.filter_map, List.map_map]
    by_cases hactor : option.actorIndex = actorIndex
    · have htimes : ((fun entry : DiscreteOption × Time =>
          decide ((entry.1.actorIndex, entry.2) = (actorIndex, time))) ∘ fun t => (option, t)) =
            fun t => decide (t = time) := by
        funext t
        simp [hactor]
      rw [htimes, filter_range_eq]
      by_cases hin : option.startTime ≤ time ∧ time < option.endTime
      · simp [TakesSlot, hactor, hin]
      · rw [if_neg hin]
        simp [TakesSlot, hactor, hin]
    · have htimes : ((fun entry : DiscreteOption × Time =>
          decide ((entry.1.actorIndex, entry.2) = (actorIndex, time))) ∘ fun t => (option, t)) =
            fun _ => false := by
        funext t
        simp [hactor]
      rw [htimes]
      simp [TakesSlot, hactor]

theorem lookup_slotOptionIndexes (xs : List DiscreteOption) (actorIndex : Nat) (time : Time) :
    (slotOptionIndexes xs).lookup (actorIndex, time) =
      if (xs.filter fun option => TakesSlot actorIndex time option) = [] then none
      else some ((xs.filter fun option => TakesSlot actorIndex time option).map
        DiscreteOption.optionIndex) := by
  rw [slotOptionIndexes, Dictionary.lookup_foldl_pushBack,
    Dictionary.lookup_empty, ← filter_covered xs actorIndex time]
  simp only [List.map_eq_nil_iff, List.map_map, Option.getD_none, List.nil_append]
  rfl

/-- The slots of the formulation: one for each position of an actor and time that an option
takes, with all the options that take it. -/
theorem mem_actorTimeSlots {slot : ActorTimeSlotConstraint} :
    slot ∈ (buildDiscreteTimeFormulation model index options).actorTimeSlots ↔
      ∃ actor, model.actors[slot.actorIndex]? = some actor ∧ slot.actorId = actor.id ∧
        slot.capacity = actor.capacity ∧
        (∃ option ∈ allOptions model index options, TakesSlot slot.actorIndex slot.time option) ∧
        slot.optionIndexes = ((allOptions model index options).filter fun option =>
          TakesSlot slot.actorIndex slot.time option).map DiscreteOption.optionIndex := by
  have hexists : ∀ actorIndex time, ((allOptions model index options).filter fun option =>
      TakesSlot actorIndex time option) ≠ [] ↔
        ∃ option ∈ allOptions model index options, TakesSlot actorIndex time option := by
    intro actorIndex time
    rw [Ne, List.filter_eq_nil_iff]
    simp only [decide_eq_true_eq, not_forall, not_not, exists_prop]
  simp only [buildDiscreteTimeFormulation, actorTimeSlots, List.mem_filterMap,
    (perm_sortBy _ _).mem_iff, Option.map_eq_some_iff]
  constructor
  · rintro ⟨⟨⟨actorIndex, time⟩, optionIndexes⟩, hrow, actor, hactor, rfl⟩
    rw [Dictionary.mem_rows_iff, lookup_slotOptionIndexes] at hrow
    split_ifs at hrow with hnone
    exact ⟨actor, hactor, rfl, rfl, (hexists actorIndex time).mp hnone, (Option.some.inj hrow).symm⟩
  · rintro ⟨actor, hactor, hactorId, hcapacity, htaken, hindexes⟩
    refine ⟨((slot.actorIndex, slot.time), slot.optionIndexes), ?_, actor, hactor, ?_⟩
    · rw [Dictionary.mem_rows_iff, lookup_slotOptionIndexes,
        if_neg ((hexists _ _).mpr htaken), hindexes]
    · cases slot with
      | mk actorIndex actorId time capacity optionIndexes =>
        dsimp only at hactorId hcapacity
        rw [hactorId, hcapacity]

theorem linearSum_slot (selection : Nat → Bool) (actorIndex : Nat) (time : Time) :
    linearSum (buildDiscreteTimeFormulation model index options) selection DiscreteOption.demand
        (((allOptions model index options).filter fun option =>
          TakesSlot actorIndex time option).map
          DiscreteOption.optionIndex) =
      (((chosen model index options selection).filter fun option =>
        TakesSlot actorIndex time option).map
        DiscreteOption.demand).sum := by
  rw [linearSum_map selection DiscreteOption.demand fun option hoption =>
    (List.mem_filter.mp hoption).1, List.filter_comm]
  rfl

end TaskOrchestrator.Optimizer
