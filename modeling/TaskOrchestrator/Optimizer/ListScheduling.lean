import TaskOrchestrator.Optimizer.Exactness
import Mathlib.Data.String.Basic

/-!
# List schedules

A list schedule is built from the tasks alone. The first task in a fixed order whose dependencies
have places is put on one of its actors, at the first start that is free there, or left out, until
no such task is left. The search comes to exactly these schedules.
-/

namespace TaskOrchestrator.Optimizer

open Library
open TaskOrchestrator.Core hiding earliestStart earliestStart_sound

set_option autoImplicit false

section Building

variable (model : OptimizationModel) (schedule : List OptimizedAssignment) (leftOut : List TaskId)

structure IsOpen (task : OptimizerTask) : Prop where
  mem : task ∈ model.tasks
  notPlaced : ∀ a ∈ schedule, a.taskId ≠ task.id
  notLeftOut : task.id ∉ leftOut
  dependencies : ∀ dep ∈ task.dependencyTaskIds, ∃ a ∈ schedule, a.taskId = dep

/-- No open task comes before it: by priority, deadline, release time, duration and id. -/
structure IsNext (task : OptimizerTask) : Prop where
  isOpen : IsOpen model schedule leftOut task
  least : ∀ other, IsOpen model schedule leftOut other → readyTaskLess other task = false

/-- The assignment puts the task on the actor, at the first start there that is free in a window
when the task is released and its dependencies are over. -/
structure Takes (task : OptimizerTask) (actor : OptimizerActor)
    (a : OptimizedAssignment) : Prop where
  mem : actor ∈ model.actors
  taskId : a.taskId = task.id
  actorId : a.actorId = actor.id
  allows : Allows task actor
  capable : ∀ capability ∈ task.requiredCapabilities, capability ∈ actor.capabilities
  demand : task.demand ≤ actor.capacity
  excluded : ∀ other ∈ task.mutuallyExclusiveTaskIds, ∀ b ∈ schedule, b.taskId ≠ other
  start : earliestStart actor ((runBy actor.id schedule).map (reservationOf model))
    (max task.releaseTime (makespan (schedule.filter fun b => b.taskId ∈ task.dependencyTaskIds)))
    task.duration task.demand = some a.startTime
  ends : a.endTime = a.startTime + task.duration
  latestStart : ∀ latest ∈ task.latestStartTime, a.startTime ≤ latest
  deadline : ∀ deadline ∈ task.deadline, a.endTime ≤ deadline

end Building

inductive ListBuilt (model : OptimizationModel) :
    List OptimizedAssignment → List TaskId → Prop where
  | nil : ListBuilt model [] []
  | place {schedule : List OptimizedAssignment} {leftOut : List TaskId} {task : OptimizerTask}
    {actor : OptimizerActor}
      {a : OptimizedAssignment} :
      ListBuilt model schedule leftOut → IsNext model schedule leftOut task →
        Takes model schedule task actor a →
      ListBuilt model (schedule ++ [a]) leftOut
  | leaveOut {schedule : List OptimizedAssignment} {leftOut : List TaskId} {task : OptimizerTask} :
      ListBuilt model schedule leftOut → IsNext model schedule leftOut task →
      ListBuilt model schedule (task.id :: leftOut)

def IsListSchedule (model : OptimizationModel) (schedule : List OptimizedAssignment) : Prop :=
  ∃ leftOut, ListBuilt model schedule leftOut ∧ ∀ task, ¬IsOpen model schedule leftOut task

def ListScheduleIsBest (model : OptimizationModel) (options : OptimizationOptions) : Prop :=
  ∃ schedule, IsListSchedule model schedule ∧ IsBest model options schedule

theorem readyTaskLess_eq : readyTaskLess =
    byKeyThen (fun task : OptimizerTask => -task.priority)
      (byKeyThen (fun task => task.deadline.getD kLargeTime)
        (byKeyThen OptimizerTask.releaseTime
          (byKeyThen OptimizerTask.duration (byKey OptimizerTask.id)))) := by
  funext lhs rhs
  simp only [readyTaskLess, byKeyThen, byKey, decide_compareOfLessAndEq_then,
    decide_compareOfLessAndEq]

theorem strictWeak_readyTaskLess : StrictWeak readyTaskLess := by
  rw [readyTaskLess_eq]
  exact ((((strictWeak_byKey _).byKeyThen _).byKeyThen _).byKeyThen _).byKeyThen _

theorem id_eq_of_tied {task other : OptimizerTask} (h : Tied readyTaskLess task other) :
    task.id = other.id := by
  rw [readyTaskLess_eq] at h
  exact h.of_byKeyThen.2.of_byKeyThen.2.of_byKeyThen.2.of_byKeyThen.2.key_eq

theorem dependencyReady_le {task : OptimizerTask} {state : SearchState} {bound : Time}
    (hbound : 0 ≤ bound)
    (h : ∀ dep ∈ task.dependencyTaskIds, ∀ completion,
      state.completionTimes.lookup dep = some completion → completion ≤ bound) :
    dependencyReady task state ≤ bound := by
  apply TreeSearch.foldl_keeps (fun ready : Time => ready ≤ bound) _ hbound
  intro dep hdep ready hready
  split
  · rename_i completion hcompletion
    exact max_le hready (h dep hdep completion hcompletion)
  · exact hready

theorem exists_candidateOn {task : OptimizerTask} {state : SearchState} {actor : OptimizerActor}
    {start : Time} (hdemand : task.demand ≤ actor.capacity)
    (hcapable : ∀ capability ∈ task.requiredCapabilities, capability ∈ actor.capabilities)
    (hstart : earliestStart actor (reservationsOf state.reservations actor.id)
      (max task.releaseTime (dependencyReady task state)) task.duration task.demand = some start)
    (hlatest : ∀ latest ∈ task.latestStartTime, start ≤ latest)
    (hdeadline : ∀ deadline ∈ task.deadline, start + task.duration ≤ deadline) :
    ∃ candidate, candidateOn task state actor = some candidate ∧ candidate.actorId = actor.id ∧
      candidate.startTime = start ∧ candidate.endTime = start + task.duration := by
  have hcapabilities : taskCapabilitiesSupported task actor = true := by
    simpa [taskCapabilitiesSupported] using hcapable
  have hlatestAll : (task.latestStartTime.all fun latest => ¬ start > latest) = true := by
    simpa [Option.all_eq_true] using hlatest
  have hdeadlineAll : (task.deadline.all fun deadline => ¬ start + task.duration > deadline) =
      true := by
    simpa [Option.all_eq_true] using hdeadline
  simp only [candidateOn, hstart, hcapabilities, guard, gt_iff_lt, not_lt.mpr hdemand,
    not_false_eq_true, if_true, Option.pure_def, Option.bind_eq_bind, Option.bind_some]
  rw [if_pos hlatestAll, if_pos hdeadlineAll]
  exact ⟨_, rfl, rfl, rfl, rfl⟩

structure Shows (model : OptimizationModel) (schedule : List OptimizedAssignment)
    (leftOut : List TaskId) (s : SearchState) : Prop where
  invariant : SearchInvariant model s
  schedule : s.schedule = schedule
  dropped : ∀ id ∈ leftOut, id ∈ s.dropped
  below : ∀ task ∈ model.tasks, task.id ∈ s.dropped →
    task.id ∈ leftOut ∨ ∃ dep ∈ task.dependencyTaskIds, dep ∈ s.dropped

namespace Shows

variable {model : OptimizationModel} {schedule : List OptimizedAssignment} {leftOut : List TaskId}
variable {s : SearchState}
variable {task : OptimizerTask}

theorem mem_scheduled (h : Shows model schedule leftOut s) {id : TaskId} :
    id ∈ s.scheduled ↔ ∃ a ∈ schedule, a.taskId = id := by
  rw [h.invariant.mem_scheduled, h.schedule]

theorem mem_readyTasks_iff (h : Shows model schedule leftOut s) :
    task ∈ readyTasks model s ↔ IsOpen model schedule leftOut task := by
  constructor
  · intro hready
    have htask := isReady_of_mem hready
    exact {
      mem := htask.mem
      notPlaced := fun a ha hid => htask.notScheduled (h.mem_scheduled.mpr ⟨a, ha, hid⟩)
      notLeftOut := fun hleft => htask.notDropped (h.dropped _ hleft)
      dependencies := fun dep hdep => h.mem_scheduled.mp (htask.dependencies dep hdep) }
  · intro hopen
    have hscheduled : ∀ dep ∈ task.dependencyTaskIds, dep ∈ s.scheduled := fun dep hdep =>
      h.mem_scheduled.mpr (hopen.dependencies dep hdep)
    have hkept : ∀ dep ∈ task.dependencyTaskIds, dep ∉ s.dropped := fun dep hdep hdropped =>
      h.invariant.apart dep hdropped (hscheduled dep hdep)
    refine mem_readyTasks_of_isReady ⟨hopen.mem, ?_, ?_, hscheduled⟩ hkept
    · rw [h.mem_scheduled]
      rintro ⟨a, ha, hid⟩
      exact hopen.notPlaced a ha hid
    · intro hdropped
      rcases h.below task hopen.mem hdropped with hleft | ⟨dep, hdep, hdepDropped⟩
      · exact hopen.notLeftOut hleft
      · exact hkept dep hdep hdepDropped

/-- The search takes the open task that comes first. -/
theorem isNext_iff (h : Shows model schedule leftOut s) (hunique : model.UniqueIds) :
    IsNext model schedule leftOut task ↔ (readyTasks model s).head? = some task := by
  have hmem : ∀ other, other ∈ model.tasks.filter (fun task =>
      !(task.id ∈ s.scheduled || task.id ∈ s.dropped) && !ConstraintIndex.dependencyBlocked task
        s.dropped &&
        ConstraintIndex.dependenciesSatisfied task s.scheduled s.dropped) ↔
          IsOpen model schedule leftOut other := by
    intro other
    rw [← h.mem_readyTasks_iff, readyTasks, (perm_sortBy _ _).mem_iff]
  have hdistinct : ∀ other task : OptimizerTask, IsOpen model schedule leftOut other →
      IsOpen model schedule leftOut task → Tied readyTaskLess other task → other = task :=
      fun other task hother htask htied =>
    hunique.task_eq hother.mem htask.mem (id_eq_of_tied htied)
  rw [readyTasks, head?_sortBy_eq_some_iff strictWeak_readyTaskLess fun other hother task htask =>
    hdistinct other task ((hmem other).mp hother) ((hmem task).mp htask), hmem]
  constructor
  · exact fun hnext =>
      ⟨hnext.isOpen, fun other hother => hnext.least other ((hmem other).mp hother)⟩
  · rintro ⟨hopen, hleast⟩
    exact ⟨hopen, fun other hother => hleast other ((hmem other).mpr hother)⟩

theorem dependencyReady_eq (h : Shows model schedule leftOut s)
    (htask : IsOpen model schedule leftOut task) :
    dependencyReady task s = makespan
      (schedule.filter fun b => b.taskId ∈ task.dependencyTaskIds) := by
  have hcompletion : ∀ a ∈ schedule, s.completionTimes.lookup a.taskId = some a.endTime :=
    h.schedule ▸ h.invariant.completions
  obtain ⟨hnonneg, hends⟩ := (foldl_max_le_iff OptimizedAssignment.endTime
    (schedule.filter fun b => b.taskId ∈ task.dependencyTaskIds) 0 _).mp (le_refl _)
  apply le_antisymm
  · apply dependencyReady_le hnonneg
    intro dep hdep completion hlookup
    obtain ⟨a, ha, rfl⟩ := htask.dependencies dep hdep
    obtain rfl := Option.some.inj ((hcompletion a ha).symm.trans hlookup)
    exact hends a (List.mem_filter.mpr ⟨ha, decide_eq_true hdep⟩)
  · refine (foldl_max_le_iff _ _ _ _).mpr ⟨foldl_max_ge _, fun a ha => ?_⟩
    obtain ⟨hmem, hdep⟩ := List.mem_filter.mp ha
    exact completion_le_dependencyReady (of_decide_eq_true hdep) (hcompletion a hmem)

/-- The candidates of the search are the places that the task can take. -/
theorem exists_takes_iff (h : Shows model schedule leftOut s) (hunique : model.UniqueIds)
    (htask : IsOpen model schedule leftOut task) (a : OptimizedAssignment) :
    (∃ actor, Takes model schedule task actor a) ↔
      ∃ candidate ∈ candidatesForTask task (ConstraintIndex.build model) s,
        a = ⟨task.id, candidate.actorId, candidate.startTime, candidate.endTime⟩ := by
  have hreservations : ∀ actorId, reservationsOf s.reservations actorId =
      (runBy actorId schedule).map (reservationOf model) := h.schedule ▸ h.invariant.reservations
  have hmutex : mutexBlocked task s = false ↔
      ∀ other ∈ task.mutuallyExclusiveTaskIds, ∀ b ∈ schedule, b.taskId ≠ other := by
    simp [mutexBlocked, h.mem_scheduled]
  constructor
  · rintro ⟨actor, htakes⟩
    have hstart := htakes.start
    rw [← hreservations, ← h.dependencyReady_eq htask] at hstart
    obtain ⟨candidate, hcandidate, hactorId, hstartTime, hendTime⟩ :=
      exists_candidateOn htakes.demand htakes.capable
      hstart htakes.latestStart (htakes.ends ▸ htakes.deadline)
    refine ⟨candidate, mem_candidatesForTask hunique htask.mem htakes.mem htakes.allows
      (hmutex.mpr htakes.excluded) hcandidate, ?_⟩
    rw [hactorId, hstartTime, hendTime, ← htakes.taskId, ← htakes.actorId, ← htakes.ends]
  · rintro ⟨candidate, hcandidate, rfl⟩
    obtain ⟨hfree, actor, hoffers⟩ := offers_of_mem hcandidate
    obtain ⟨hactor, hallows⟩ :=
      (mem_eligibleActorsForTask hunique htask.mem actor).mp hoffers.eligible
    have hstart := hoffers.start
    rw [hreservations, h.dependencyReady_eq htask] at hstart
    exact ⟨actor, {
      mem := hactor
      taskId := rfl
      actorId := hoffers.actorId
      allows := hallows
      capable := hoffers.capable
      demand := hoffers.demand
      excluded := hmutex.mp hfree
      start := hstart
      ends := hoffers.ends
      latestStart := hoffers.latestStart
      deadline := hoffers.deadline }⟩

theorem root (model : OptimizationModel) : Shows model [] [] (rootState model) where
  invariant := .root model
  schedule := by simp [SearchState.schedule, rootState]
  dropped := by simp
  below := by simp [rootState]

theorem dropDescendants (h : Shows model schedule leftOut s) (hunique : model.UniqueIds) :
    Shows model schedule leftOut (dropDescendantsIfBlocked model s) := by
  apply dropPasses_keeps _ _ h
  intro t blocked hblocked ht hscheduled _ hdependency
  simp only [ConstraintIndex.dependencyBlocked, List.any_eq_true, decide_eq_true_eq] at hdependency
  refine ⟨ht.invariant.drop hblocked hscheduled, ht.schedule, fun id hid =>
    ?_, fun task htask hdropped => ?_⟩
  · exact List.mem_insert_of_mem (ht.dropped id hid)
  · rcases List.mem_insert_iff.mp hdropped with hid | hdropped
    · obtain rfl := hunique.task_eq htask hblocked hid
      obtain ⟨dep, hdep, hdepDropped⟩ := hdependency
      exact Or.inr ⟨dep, hdep, List.mem_insert_of_mem hdepDropped⟩
    · refine (ht.below task htask hdropped).imp_right ?_
      rintro ⟨dep, hdep, hdepDropped⟩
      exact ⟨dep, hdep, List.mem_insert_of_mem hdepDropped⟩

theorem leaveOut (h : Shows model schedule leftOut s) (htask : IsOpen model schedule leftOut task) :
    Shows model schedule (task.id :: leftOut) (s.drop task.id) := by
  have hready := isReady_of_mem (h.mem_readyTasks_iff.mpr htask)
  refine ⟨h.invariant.drop htask.mem hready.notScheduled, h.schedule, fun id hid =>
    ?_, fun other hother hdropped => ?_⟩
  · rcases List.mem_cons.mp hid with rfl | hid
    · exact List.mem_insert_self
    · exact List.mem_insert_of_mem (h.dropped id hid)
  · rcases List.mem_insert_iff.mp hdropped with hid | hdropped
    · exact Or.inl (hid ▸ List.mem_cons_self)
    · refine (h.below other hother hdropped).imp (List.mem_cons_of_mem _) ?_
      rintro ⟨dep, hdep, hdepDropped⟩
      exact ⟨dep, hdep, List.mem_insert_of_mem hdepDropped⟩

theorem place (h : Shows model schedule leftOut s) (hunique : model.UniqueIds)
    (htask : IsOpen model schedule leftOut task) {candidate : Candidate}
    (hcandidate : candidate ∈ candidatesForTask task (ConstraintIndex.build model) s) :
    Shows model
    (schedule ++ [⟨task.id, candidate.actorId, candidate.startTime, candidate.endTime⟩]) leftOut
      (s.place task candidate) where
  invariant :=
    h.invariant.place hunique (isReady_of_mem (h.mem_readyTasks_iff.mpr htask)) hcandidate
  schedule := by rw [SearchInvariant.schedule_place, h.schedule]
  dropped := h.dropped
  below := h.below

end Shows

section Equivalence

variable {model : OptimizationModel} (hunique : model.UniqueIds)
include hunique

theorem listBuilt_of_listSchedule {s : SearchState} (h : ListSchedule model s) :
    ∃ leftOut, ListBuilt model s.schedule leftOut ∧ Shows model s.schedule leftOut s := by
  induction h with
  | root =>
    have hroot := (Shows.root model).dropDescendants hunique
    refine ⟨[], ?_, ?_⟩
    · rw [hroot.schedule]
      exact .nil
    · rw [hroot.schedule]
      exact hroot
  | @place s task rest candidate _ hready hcandidate ih =>
    obtain ⟨leftOut, hbuilt, hshows⟩ := ih
    have hnext := (hshows.isNext_iff hunique).mpr (congrArg List.head? hready)
    obtain ⟨actor, htakes⟩ :=
      (hshows.exists_takes_iff hunique hnext.isOpen _).mpr ⟨candidate, hcandidate, rfl⟩
    have hplaced := (hshows.place hunique hnext.isOpen hcandidate).dropDescendants hunique
    refine ⟨leftOut, ?_, ?_⟩
    · rw [hplaced.schedule]
      exact hbuilt.place hnext htakes
    · rw [hplaced.schedule]
      exact hplaced
  | @leaveOut s task rest _ hready ih =>
    obtain ⟨leftOut, hbuilt, hshows⟩ := ih
    have hnext := (hshows.isNext_iff hunique).mpr (congrArg List.head? hready)
    have hleft := (hshows.leaveOut hnext.isOpen).dropDescendants hunique
    refine ⟨task.id :: leftOut, ?_, ?_⟩
    · rw [hleft.schedule]
      exact hbuilt.leaveOut hnext
    · rw [hleft.schedule]
      exact hleft

theorem listSchedule_of_listBuilt {schedule : List OptimizedAssignment} {leftOut : List TaskId}
    (h : ListBuilt model schedule leftOut) :
    ∃ s, ListSchedule model s ∧ Shows model schedule leftOut s := by
  induction h with
  | nil => exact ⟨_, .root, (Shows.root model).dropDescendants hunique⟩
  | @place schedule leftOut task actor a _ hnext htakes ih =>
    obtain ⟨s, hlist, hshows⟩ := ih
    obtain ⟨rest, hready⟩ := List.head?_eq_some_iff.mp ((hshows.isNext_iff hunique).mp hnext)
    obtain ⟨candidate, hcandidate, rfl⟩ :=
      (hshows.exists_takes_iff hunique hnext.isOpen _).mp ⟨actor, htakes⟩
    exact ⟨_, hlist.place hready hcandidate,
      (hshows.place hunique hnext.isOpen hcandidate).dropDescendants hunique⟩
  | @leaveOut schedule leftOut task _ hnext ih =>
    obtain ⟨s, hlist, hshows⟩ := ih
    obtain ⟨rest, hready⟩ := List.head?_eq_some_iff.mp ((hshows.isNext_iff hunique).mp hnext)
    exact ⟨_, hlist.leaveOut hready, (hshows.leaveOut hnext.isOpen).dropDescendants hunique⟩

theorem isListSchedule_iff {schedule : List OptimizedAssignment} :
    IsListSchedule model schedule ↔
      ∃ s, ListSchedule model s ∧ readyTasks model s = [] ∧ s.schedule = schedule := by
  constructor
  · rintro ⟨leftOut, hbuilt, hdone⟩
    obtain ⟨s, hlist, hshows⟩ := listSchedule_of_listBuilt hunique hbuilt
    refine ⟨s, hlist, ?_, hshows.schedule⟩
    exact List.eq_nil_iff_forall_not_mem.mpr fun task htask =>
      hdone task (hshows.mem_readyTasks_iff.mp htask)
  · rintro ⟨s, hlist, hnone, rfl⟩
    obtain ⟨leftOut, hbuilt, hshows⟩ := listBuilt_of_listSchedule hunique hlist
    refine ⟨leftOut, hbuilt, fun task hopen => ?_⟩
    have hready := hshows.mem_readyTasks_iff.mpr hopen
    rw [hnone] at hready
    exact List.not_mem_nil hready

end Equivalence

end TaskOrchestrator.Optimizer
