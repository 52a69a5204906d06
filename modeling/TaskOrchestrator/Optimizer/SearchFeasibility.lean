import TaskOrchestrator.Optimizer.SearchTree
import TaskOrchestrator.Core.Planning

/-!
# Solutions of the indexed exact backend are feasible

At every node of the search tree the assignments so far are a feasible schedule, and the
tables of the search state describe it: the reservations are its intervals and the
completion times its ends. Scheduled and dropped tasks are tasks of the model and stay apart.
-/

namespace TaskOrchestrator.Optimizer

open Library
open TaskOrchestrator.Core hiding earliestStart earliestStart_sound

set_option autoImplicit false

variable {model : OptimizationModel} {index : ConstraintIndex} {options : OptimizationOptions}

theorem earliestStart_sound {actor : OptimizerActor} {reservations : List ScheduledInterval}
    {releaseTime : Time} {duration : Duration} {demand : Int} {start : Time}
    (h : earliestStart actor reservations releaseTime duration demand = some start) :
    releaseTime ≤ start ∧ (0 < duration →
      (∃ window ∈ actor.availabilityWindows, window.start ≤ start ∧ start + duration ≤
        window.stop) ∧
      ∀ instant, start ≤ instant → instant < start + duration →
        concurrentDemandAt reservations instant + demand ≤ actor.capacity) := by
  unfold earliestStart at h
  split_ifs at h with hduration
  · obtain rfl := Option.some.inj h
    exact ⟨le_refl _, fun hpositive => absurd hpositive (not_lt.mpr hduration)⟩
  · obtain ⟨hrelease, hwindow, hcapacity⟩ := start_in_window_sound h
    exact ⟨hrelease, fun _ => ⟨hwindow, hcapacity⟩⟩

theorem foldl_max_ge {completionTimes : CompletionTable} {dependencyIds : List TaskId}
    (first : Time) :
    first ≤ dependencyIds.foldl (fun ready dependencyId =>
      match completionTimes.lookup dependencyId with
      | some completion => max ready completion
      | none => ready) first := by
  apply TreeSearch.foldl_keeps (fun ready : Time => first ≤ ready) _ (le_refl first)
  intro dep _ ready hready
  split
  · exact hready.trans (le_max_left _ _)
  · exact hready

theorem completion_le_dependencyReady {task : OptimizerTask} {state : SearchState} {dep : TaskId}
    {completion : Time} (hdep : dep ∈ task.dependencyTaskIds)
    (hcompletion : state.completionTimes.lookup dep = some completion) :
    completion ≤ dependencyReady task state := by
  obtain ⟨before, after, heq⟩ := List.append_of_mem hdep
  rw [dependencyReady, heq, List.foldl_append, List.foldl_cons, hcompletion]
  exact (le_max_right _ _).trans (foldl_max_ge _)

structure Offers (task : OptimizerTask) (index : ConstraintIndex) (state : SearchState)
    (candidate : Candidate) (actor : OptimizerActor) : Prop where
  eligible : actor ∈ index.eligibleActorsForTask task
  actorId : candidate.actorId = actor.id
  demand : task.demand ≤ actor.capacity
  capable : ∀ capability ∈ task.requiredCapabilities, capability ∈ actor.capabilities
  start : earliestStart actor (reservationsOf state.reservations actor.id)
    (max task.releaseTime (dependencyReady task state)) task.duration task.demand =
      some candidate.startTime
  latestStart : ∀ latest ∈ task.latestStartTime, candidate.startTime ≤ latest
  ends : candidate.endTime = candidate.startTime + task.duration
  deadline : ∀ deadline ∈ task.deadline, candidate.endTime ≤ deadline

theorem offers_of_mem {task : OptimizerTask} {state : SearchState} {candidate : Candidate}
    (h : candidate ∈ candidatesForTask task index state) :
    mutexBlocked task state = false ∧ ∃ actor, Offers task index state candidate actor := by
  unfold candidatesForTask at h
  split_ifs at h with hblocked
  · exact absurd h (by simp)
  · rw [(perm_sortBy _ _).mem_iff, List.mem_filterMap] at h
    obtain ⟨actor, hactor, hcandidate⟩ := h
    simp only [candidateOn, Option.bind_eq_bind, Option.bind_eq_some_iff, Option.guard_eq_some',
      exists_const, Option.all_eq_true, decide_eq_true_eq, not_lt, gt_iff_lt,
      taskCapabilitiesSupported, List.all_eq_true] at hcandidate
    obtain ⟨hdemand, hcapable, start, hstart, hlatest, hdeadline, heq⟩ := hcandidate
    obtain rfl := Option.some.inj heq
    exact ⟨by simpa using hblocked, actor, hactor, rfl, hdemand, hcapable, hstart, hlatest, rfl,
      hdeadline⟩

theorem mem_candidatesForTask (hunique : model.UniqueIds) {task : OptimizerTask}
    (htask : task ∈ model.tasks) {actor : OptimizerActor} (hactor : actor ∈ model.actors)
    (hallows : Allows task actor) {state : SearchState} (hfree : mutexBlocked task state = false)
    {candidate : Candidate} (hcandidate : candidateOn task state actor = some candidate) :
    candidate ∈ candidatesForTask task (ConstraintIndex.build model) state := by
  rw [candidatesForTask, hfree, if_neg Bool.false_ne_true, (perm_sortBy _ _).mem_iff]
  exact List.mem_filterMap.mpr ⟨actor,
    (mem_eligibleActorsForTask hunique htask actor).mpr ⟨hactor, hallows⟩, hcandidate⟩

def reservationOf (model : OptimizationModel) (a : OptimizedAssignment) : ScheduledInterval where
  start := a.startTime
  stop := a.endTime
  demand := model.demandOf a.taskId

theorem concurrentDemandAt_reservations (schedule : List OptimizedAssignment) (instant : Time) :
    concurrentDemandAt (schedule.map (reservationOf model)) instant =
      (occupied model).load schedule instant := by
  rw [concurrentDemandAt_eq_load, Weighing.load, Weighing.load, List.map_map]
  rfl

structure SearchInvariant (model : OptimizationModel) (state : SearchState) : Prop where
  feasible : FeasibleSchedule model state.schedule
  scheduled : state.scheduled.Perm (state.schedule.map OptimizedAssignment.taskId)
  reservations : ∀ actorId, reservationsOf state.reservations actorId =
    (runBy actorId state.schedule).map (reservationOf model)
  completions : ∀ a ∈ state.schedule, state.completionTimes.lookup a.taskId = some a.endTime
  priorities : ∀ a ∈ state.assignments, a.priority = model.priorityOf a.assignment.taskId
  droppedOnce : state.dropped.Nodup
  droppedKnown : ∀ id ∈ state.dropped, id ∈ model.tasks.map OptimizerTask.id
  apart : ∀ id ∈ state.dropped, id ∉ state.scheduled

namespace SearchInvariant

theorem root (model : OptimizationModel) : SearchInvariant model (rootState model) where
  feasible := .nil
  scheduled := .refl _
  reservations := by
    intro actorId
    have hnone : ∀ (actors : List OptimizerActor) (d : ReservationTable),
        reservationsOf d actorId = [] →
        reservationsOf (actors.foldl (fun reservations actor => reservations.assign actor.id []) d)
          actorId = [] := by
      intro actors d hd
      apply TreeSearch.foldl_keeps (fun d : ReservationTable => reservationsOf d actorId = []) _ hd
      intro actor _ d hd
      rw [reservationsOf, Dictionary.lookup_assign]
      split_ifs
      · rfl
      · exact hd
    exact hnone model.actors .empty rfl
  completions := by simp [SearchState.schedule, rootState]
  priorities := by simp [rootState]
  droppedOnce := List.nodup_nil
  droppedKnown := by simp [rootState]
  apart := by simp [rootState]

theorem drop {s : SearchState} {task : OptimizerTask} (hs : SearchInvariant model s)
    (htask : task ∈ model.tasks) (hscheduled : task.id ∉ s.scheduled) :
    SearchInvariant model (s.drop task.id) where
  feasible := hs.feasible
  scheduled := hs.scheduled
  reservations := hs.reservations
  completions := hs.completions
  priorities := hs.priorities
  droppedOnce := hs.droppedOnce.insert
  droppedKnown := by
    intro id hid
    rcases List.mem_insert_iff.mp hid with rfl | hid
    · exact List.mem_map_of_mem htask
    · exact hs.droppedKnown id hid
  apart := by
    intro id hid
    rcases List.mem_insert_iff.mp hid with rfl | hid
    · exact hscheduled
    · exact hs.apart id hid

theorem mem_scheduled {s : SearchState} (hs : SearchInvariant model s) {id : TaskId} :
    id ∈ s.scheduled ↔ ∃ a ∈ s.schedule, a.taskId = id := by
  rw [hs.scheduled.mem_iff, List.mem_map]

theorem schedule_place (s : SearchState) (task : OptimizerTask) (candidate : Candidate) :
    (s.place task candidate).schedule =
      s.schedule ++ [⟨task.id, candidate.actorId, candidate.startTime, candidate.endTime⟩] := by
  simp [SearchState.schedule, SearchState.place]

theorem feasible_place (hunique : model.UniqueIds) {s : SearchState} {task : OptimizerTask}
    {candidate : Candidate} (hs : SearchInvariant model s) (hready : IsReady model s task)
    (hcandidate : candidate ∈ candidatesForTask task (ConstraintIndex.build model) s) :
    FeasibleSchedule model (s.place task candidate).schedule := by
  obtain ⟨-, actor, hoffers⟩ := offers_of_mem hcandidate
  obtain ⟨hactor, hallows⟩ :=
    (mem_eligibleActorsForTask hunique hready.mem actor).mp hoffers.eligible
  obtain ⟨hafter, hpositive⟩ := earliestStart_sound hoffers.start
  obtain ⟨hrelease, hdependencies⟩ := max_le_iff.mp hafter
  rw [schedule_place]
  apply hs.feasible.append hunique _ hready.mem hactor rfl hoffers.actorId.symm
  · refine ⟨hallows, hoffers.capable, hoffers.demand, hrelease, hoffers.latestStart, hoffers.ends,
      hoffers.deadline, fun hduration => ?_⟩
    obtain ⟨⟨window, hwindow, hstart, hstop⟩, -⟩ := hpositive hduration
    exact ⟨window, hwindow, hstart, hoffers.ends ▸ hstop⟩
  · intro dep hdep
    obtain ⟨b, hb, rfl⟩ := hs.mem_scheduled.mp (hready.dependencies dep hdep)
    have hcompletion := completion_le_dependencyReady hdep (hs.completions b hb)
    exact ⟨b, hb, rfl, hcompletion.trans hdependencies⟩
  · intro instant hcovers
    obtain ⟨hstart, hstop⟩ := hcovers
    change candidate.startTime ≤ instant at hstart
    change instant < candidate.endTime at hstop
    rw [hoffers.ends] at hstop
    have hduration : 0 < task.duration := by
      have hspan : candidate.startTime < candidate.startTime + task.duration :=
        lt_of_le_of_lt hstart hstop
      exact pos_of_lt_add_right hspan
    have hroom := (hpositive hduration).2 instant hstart hstop
    rwa [hs.reservations, concurrentDemandAt_reservations] at hroom
  · intro b hb heq
    exact hready.notScheduled (hs.mem_scheduled.mpr ⟨b, hb, heq⟩)

theorem place (hunique : model.UniqueIds) {s : SearchState} {task : OptimizerTask}
    {candidate : Candidate} (hs : SearchInvariant model s) (hready : IsReady model s task)
    (hcandidate : candidate ∈ candidatesForTask task (ConstraintIndex.build model) s) :
    SearchInvariant model (s.place task candidate) := by
  constructor
  · exact hs.feasible_place hunique hready hcandidate
  · rw [schedule_place, List.map_append]
    change (s.scheduled.insert task.id).Perm _
    rw [List.insert_of_not_mem hready.notScheduled]
    exact (hs.scheduled.cons task.id).trans (List.perm_append_singleton task.id _).symm
  · intro actorId
    rw [schedule_place, runBy_append, List.map_append]
    change reservationsOf (reserve s.reservations candidate.actorId _) actorId = _
    rw [reservationsOf_reserve, hs.reservations]
    congr 1
    split_ifs
    · simp [reservationOf, demandOf_task hunique hready.mem]
    · rfl
  · intro a ha
    rw [schedule_place] at ha
    change (s.completionTimes.assign task.id candidate.endTime).lookup a.taskId = _
    rw [Dictionary.lookup_assign]
    rcases List.mem_append.mp ha with ha | ha
    · have hne : task.id ≠ a.taskId :=
        fun heq => hready.notScheduled (hs.mem_scheduled.mpr ⟨a, ha, heq.symm⟩)
      rw [if_neg hne]
      exact hs.completions a ha
    · obtain rfl := List.mem_singleton.mp ha
      rw [if_pos rfl]
  · intro a ha
    rcases List.mem_append.mp ha with ha | ha
    · exact hs.priorities a ha
    · obtain rfl := List.mem_singleton.mp ha
      exact (priorityOf_task hunique hready.mem).symm
  · exact hs.droppedOnce
  · exact hs.droppedKnown
  · intro id hid hscheduled
    rcases List.mem_insert_iff.mp hscheduled with rfl | hscheduled
    · exact hready.notDropped hid
    · exact hs.apart id hid hscheduled

theorem kept (hunique : model.UniqueIds) :
    KeptBySearch model (ConstraintIndex.build model) (SearchInvariant model) where
  drop := fun _ _ htask hs hscheduled _ => hs.drop htask hscheduled
  place := fun _ _ _ hcandidate hs hready => hs.place hunique hready hcandidate

theorem leaf (hunique : model.UniqueIds) {state : SearchState}
    (h : IsLeaf model (ConstraintIndex.build model) options state) : SearchInvariant model state :=
  (kept hunique).below (root model) h.below

end SearchInvariant

theorem solve_state (hunique : model.UniqueIds)
    (hok : (solve model (ConstraintIndex.build model) options).ok = true) :
    ∃ state, SearchInvariant model state ∧
      (solve model (ConstraintIndex.build model) options).assignments = state.schedule ∧
      (solve model (ConstraintIndex.build model) options).unfulfilledTaskIds =
        (model.tasks.filter fun task => task.id ∉ state.scheduled).map OptimizerTask.id := by
  obtain ⟨state, hleaf, hassignments, hunfulfilled⟩ := solve_leaf hok
  exact ⟨state, .leaf hunique hleaf, hassignments, hunfulfilled⟩

/-- Every solution that the backend returns as good is a feasible schedule, and its two lists
make up the tasks of the model. -/
theorem solve_feasible (model : OptimizationModel) (options : OptimizationOptions)
    (hunique : model.UniqueIds)
    (hok : (solve model (ConstraintIndex.build model) options).ok = true) :
    Partitions model (solve model (ConstraintIndex.build model) options) ∧
      FeasibleSchedule model (solve model (ConstraintIndex.build model) options).assignments := by
  obtain ⟨state, hs, hassignments, hunfulfilled⟩ := solve_state hunique hok
  constructor
  · rw [Partitions, hassignments, hunfulfilled]
    exact hs.feasible.partitions hunique fun _ => hs.mem_scheduled
  · rw [hassignments]
    exact hs.feasible

/-- Two tasks that follow each other on one actor, and one that nobody can take. -/
def exampleModel : OptimizationModel where
  actors := [{ id := "x", capacity := 2, availabilityWindows := [{ start := 1, stop := 10 }] }]
  tasks :=
    [{ id := "b", duration := 3, priority := 1, dependencyTaskIds := ["a"] },
      { id := "a", duration := 2, demand := 2 },
      { id := "c", duration := 2, requiredCapabilities := ["lift"] }]

theorem solve_feasible_chain :
    let solution := solve exampleModel (ConstraintIndex.build exampleModel) {}
    solution.assignments = [⟨"a", "x", 1, 3⟩, ⟨"b", "x", 3, 6⟩] ∧
      solution.unfulfilledTaskIds = ["c"] ∧
      Partitions exampleModel solution ∧ FeasibleSchedule exampleModel solution.assignments :=
  ⟨by decide, by decide, solve_feasible exampleModel {} ⟨by decide, by decide⟩ (by decide)⟩

def ListedBy (model : OptimizationModel) (id listed : TaskId) : Prop :=
  ∀ task ∈ model.tasks, task.id = id → listed ∈ task.mutuallyExclusiveTaskIds

instance (model : OptimizationModel) (id listed : TaskId) : Decidable (ListedBy model id listed) :=
  inferInstanceAs
    (Decidable (∀ task ∈ model.tasks, task.id = id → listed ∈ task.mutuallyExclusiveTaskIds))

theorem scheduled_kept :
    KeptBySearch model index fun s => ∀ id, id ∈ s.scheduled ↔ ∃ a ∈ s.schedule, a.taskId = id where
  drop := fun _ _ _ hs _ _ => hs
  place := by
    intro s task candidate _ hs _ id
    rw [SearchInvariant.schedule_place]
    simp only [SearchState.place, List.mem_insert_iff, hs, List.mem_append, List.mem_singleton]
    constructor
    · rintro (rfl | ⟨a, ha, rfl⟩)
      · exact ⟨_, Or.inr rfl, rfl⟩
      · exact ⟨a, Or.inl ha, rfl⟩
    · rintro ⟨a, ha | rfl, rfl⟩
      · exact Or.inr ⟨a, ha, rfl⟩
      · exact Or.inl rfl

/-- Of two tasks that list each other the search never schedules the second one. -/
theorem exclusion_kept {a b : TaskId} (hne : a ≠ b) (hab : ListedBy model a b)
    (hba : ListedBy model b a) :
    KeptBySearch model index fun s => ¬ (a ∈ s.scheduled ∧ b ∈ s.scheduled) where
  drop := fun _ _ _ hs _ _ => hs
  place := by
    intro s task candidate hcandidate hs hready
    have hfree : ∀ id ∈ task.mutuallyExclusiveTaskIds, id ∉ s.scheduled := by
      simpa [mutexBlocked] using (offers_of_mem hcandidate).1
    simp only [SearchState.place, List.mem_insert_iff]
    rintro ⟨rfl | ha, hb⟩
    · exact hfree b (hab task hready.mem rfl) (hb.resolve_left hne.symm)
    · rcases hb with rfl | hb
      · exact hfree a (hba task hready.mem rfl) ha
      · exact hs ⟨ha, hb⟩

theorem solve_excludes {a b : TaskId} (hne : a ≠ b) (hab : ListedBy model a b)
    (hba : ListedBy model b a) {x y : OptimizedAssignment}
    (hx : x ∈ (solve model index options).assignments)
    (hy : y ∈ (solve model index options).assignments) (hxId : x.taskId = a) : y.taskId ≠ b := by
  intro hyId
  cases hok : (solve model index options).ok with
  | false =>
    rw [solve_failed hok] at hx
    exact absurd hx (by simp)
  | true =>
    obtain ⟨state, hleaf, hassignments, -⟩ := solve_leaf hok
    rw [hassignments] at hx hy
    have hscheduled := scheduled_kept.below (by simp [SearchState.schedule, rootState]) hleaf.below
    have hexclusive := (exclusion_kept hne hab hba).below (by simp [rootState]) hleaf.below
    exact hexclusive ⟨(hscheduled a).mpr ⟨x, hx, hxId⟩, (hscheduled b).mpr ⟨y, hy, hyId⟩⟩

/-- Whenever a task of the model lists another one, it is listed back. -/
def ExclusionsListedBack (model : OptimizationModel) : Prop :=
  ∀ task ∈ model.tasks, ∀ other ∈ model.tasks, task.id ≠ other.id →
    other.id ∈ task.mutuallyExclusiveTaskIds →
    task.id ∈ other.mutuallyExclusiveTaskIds

instance (model : OptimizationModel) : Decidable (ExclusionsListedBack model) :=
  inferInstanceAs (Decidable (∀ task ∈ model.tasks, ∀ other ∈ model.tasks, task.id ≠ other.id →
    other.id ∈ task.mutuallyExclusiveTaskIds → task.id ∈ other.mutuallyExclusiveTaskIds))

theorem solve_respectsExclusions (hunique : model.UniqueIds) (hlisted : ExclusionsListedBack model)
    (hok : (solve model (ConstraintIndex.build model) options).ok = true) :
    RespectsExclusions model (solve model (ConstraintIndex.build model) options).assignments := by
  intro x hx y hy hne task htask hid hlists
  obtain ⟨state, hs, hassignments, -⟩ := solve_state hunique hok
  obtain ⟨other, hother, -, -, hotherId, -⟩ := hs.feasible.fits y (hassignments ▸ hy)
  rw [← hotherId] at hlists
  rw [← hid, ← hotherId] at hne
  have hback := hlisted task htask other hother hne hlists
  have hab : ListedBy model task.id other.id := by
    intro same hsame hsameId
    rwa [hunique.task_eq hsame htask hsameId]
  have hba : ListedBy model other.id task.id := by
    intro same hsame hsameId
    rwa [hunique.task_eq hsame hother hsameId]
  exact solve_excludes hne hab hba hx hy hid.symm hotherId.symm

end TaskOrchestrator.Optimizer
