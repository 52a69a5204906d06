import TaskOrchestrator.Core.Planning

/-!
# Two planning passes side by side

A pass reads its tables by lookup and membership only, and all of a task but the phase that it
was found in. Two passes whose tables agree in this sense, and which take the same ready tasks
in every round, place the same tasks.
-/

namespace TaskOrchestrator.Core

open Library

set_option autoImplicit false

/-- The part of a task that a pass reads after it has ordered the ready tasks. -/
def PendingTask.forgetPhase (task : PendingTask) : PendingTask :=
  { task with info := { task.info with phaseId := "" } }

/-- The tables of two passes agree, but for the order in which sets and maps are kept. -/
structure PlanState.Matches (s t : PlanState) : Prop where
  remaining : s.remainingTaskIds.Perm t.remainingTaskIds
  reservations : s.reservations = t.reservations
  completionTimes : ∀ id, s.completionTimes.lookup id = t.completionTimes.lookup id
  blocked : ∀ id, id ∈ s.blockedTaskIds ↔ id ∈ t.blockedTaskIds
  assignments : s.assignments = t.assignments
  ranking : s.rankingDecisionCriterionIndex = t.rankingDecisionCriterionIndex

structure SameCandidates (registry : ActorRegistry) (state : WorkflowState)
    (registry' : ActorRegistry) (state' : WorkflowState) : Prop where
  actorIds : registry.actorIds = registry'.actorIds
  release : ∀ task, effectiveReleaseTime task state = effectiveReleaseTime task state'
  candidate : ∀ task reservations earliestRelease actorId,
    actorCandidate registry state task reservations earliestRelease actorId =
      actorCandidate registry' state' task reservations earliestRelease actorId

section Tables

theorem mutexConflict_congr {task : PendingTask} {blocked blocked' : List TaskId}
    (h : ∀ id, id ∈ blocked ↔ id ∈ blocked') :
    mutexConflict task blocked = mutexConflict task blocked' := by
  unfold mutexConflict
  simp only [h]

theorem dependencyReadyTime_congr {task : PendingTask} {times times' : CompletionTable}
    (h : ∀ id, times.lookup id = times'.lookup id) :
    dependencyReadyTime task times = dependencyReadyTime task times' := by
  unfold dependencyReadyTime
  simp only [h]

end Tables

section Passes

variable {registry registry' : ActorRegistry} {state state' : WorkflowState} {s t : PlanState}
variable (now : Time) (profile : ActorRankingProfile)

theorem SameCandidates.selectBestCandidate (h : SameCandidates registry state registry' state')
    (task : PendingTask) (reservations : ReservationTable) {times times' : CompletionTable}
    (htimes : ∀ id, times.lookup id = times'.lookup id) :
    selectBestCandidate registry state now profile task reservations times =
      selectBestCandidate registry' state' now profile task reservations times' := by
  have hconsider : ∀ earliestRelease,
      considerActor registry state profile task reservations earliestRelease =
        considerActor registry' state' profile task reservations earliestRelease := by
    intro earliestRelease
    funext best actorId
    unfold considerActor
    rw [h.candidate]
  unfold Core.selectBestCandidate
  rw [dependencyReadyTime_congr htimes, h.actorIds, h.release]
  cases dependencyReadyTime task times' with
  | none => rfl
  | some ready => simp only [hconsider]

theorem PlanState.Matches.giveUp (hs : s.Matches t) (taskId : TaskId) :
    (s.giveUp taskId).Matches (t.giveUp taskId) where
  remaining := hs.remaining.erase taskId
  reservations := hs.reservations
  completionTimes := hs.completionTimes
  blocked := hs.blocked
  assignments := hs.assignments
  ranking := hs.ranking

theorem PlanState.Matches.place (hs : s.Matches t) (task : PendingTask)
    (selection : CandidateSelection) :
    (s.place task selection).Matches (t.place task selection) where
  remaining := hs.remaining.erase task.info.id
  reservations := by simp only [PlanState.place, hs.reservations]
  completionTimes id := by simp only [PlanState.place, Dictionary.lookup_assign, hs.completionTimes]
  blocked id := by simp only [PlanState.place, List.mem_insert_iff, hs.blocked]
  assignments := by simp only [PlanState.place, hs.assignments]
  ranking := by simp only [PlanState.place, hs.ranking]

/-- The phase of a task does not matter once its turn has come. -/
theorem planTask_forgetPhase (registry : ActorRegistry) (state : WorkflowState)
    (progressing : PlanState × Bool) (task : PendingTask) :
    planTask registry state now profile progressing task.forgetPhase =
      planTask registry state now profile progressing task := rfl

theorem foldl_forgetPhase (registry : ActorRegistry) (state : WorkflowState)
    (tasks : List PendingTask) (initial : PlanState × Bool) :
    (tasks.map PendingTask.forgetPhase).foldl (planTask registry state now profile) initial =
      tasks.foldl (planTask registry state now profile) initial := by
  rw [List.foldl_map]
  simp only [planTask_forgetPhase]

theorem planTask_erases (registry : ActorRegistry) (state : WorkflowState)
    (progressing : PlanState × Bool) (task : PendingTask) :
    (planTask registry state now profile progressing task).1.remainingTaskIds =
      progressing.1.remainingTaskIds.erase task.info.id := by
  unfold planTask
  dsimp only
  split_ifs with hremaining hconflict
  · rfl
  · cases selectBestCandidate registry state now profile task progressing.1.reservations
      progressing.1.completionTimes with
    | none => rfl
    | some selection => rfl
  · exact (List.erase_of_not_mem hremaining).symm

theorem foldl_planTask_erases (registry : ActorRegistry) (state : WorkflowState)
    (progressing : PlanState × Bool) (readyTasks : List PendingTask) :
    (readyTasks.foldl (planTask registry state now profile) progressing).1.remainingTaskIds =
      readyTasks.foldl (fun ids task => ids.erase task.info.id) progressing.1.remainingTaskIds := by
  induction readyTasks generalizing progressing with
  | nil => rfl
  | cons task rest ih => rw [List.foldl_cons, List.foldl_cons, ih, planTask_erases]

theorem mem_foldl_erase {ids : List TaskId} (hnodup : ids.Nodup) (tasks : List PendingTask)
    (id : TaskId) :
    id ∈ tasks.foldl (fun ids task => ids.erase task.info.id) ids ↔
      id ∈ ids ∧ ∀ task ∈ tasks, task.info.id ≠ id := by
  induction tasks generalizing ids with
  | nil => simp
  | cons task rest ih =>
    rw [List.foldl_cons, ih (hnodup.erase _), hnodup.mem_erase_iff, List.forall_mem_cons, ne_comm]
    constructor
    · rintro ⟨⟨hne, hmem⟩, hrest⟩
      exact ⟨hmem, hne, hrest⟩
    · rintro ⟨hmem, hne, hrest⟩
      exact ⟨⟨hne, hmem⟩, hrest⟩

theorem SameCandidates.planTask (h : SameCandidates registry state registry' state')
    (hs : s.Matches t) (progress : Bool) (task : PendingTask) :
    (planTask registry state now profile (s, progress) task).1.Matches
        (planTask registry' state' now profile (t, progress) task).1 ∧
      (planTask registry state now profile (s, progress) task).2 =
        (planTask registry' state' now profile (t, progress) task).2 := by
  have hselect := h.selectBestCandidate now profile task s.reservations hs.completionTimes
  rw [hs.reservations] at hselect
  unfold Core.planTask
  dsimp only
  rw [mutexConflict_congr hs.blocked, hs.reservations, hselect]
  simp only [hs.remaining.mem_iff]
  split_ifs with hremaining hconflict
  · exact ⟨hs.giveUp _, rfl⟩
  · cases Core.selectBestCandidate registry' state' now profile task t.reservations
      t.completionTimes with
    | none => exact ⟨hs.giveUp _, rfl⟩
    | some selection => exact ⟨hs.place task selection, rfl⟩
  · exact ⟨hs, rfl⟩

theorem SameCandidates.round (h : SameCandidates registry state registry' state') (hs : s.Matches t)
    {readyTasks readyTasks' : List PendingTask}
    (hready : readyTasks.map PendingTask.forgetPhase = readyTasks'.map PendingTask.forgetPhase)
    (progress : Bool) :
    let next := readyTasks.foldl (Core.planTask registry state now profile) (s, progress)
    let next' := readyTasks'.foldl (Core.planTask registry' state' now profile) (t, progress)
    next.1.Matches next'.1 ∧ next.2 = next'.2 := by
  intro next next'
  have hfold := List.foldl_rel (l := readyTasks.map PendingTask.forgetPhase)
    (f := Core.planTask registry state now profile)
    (g := Core.planTask registry' state' now profile)
    (r := fun p q : PlanState × Bool => p.1.Matches q.1 ∧ p.2 = q.2) (a := (s, progress))
      (b := (t, progress))
    ⟨hs, rfl⟩ ?_
  · rw [foldl_forgetPhase, hready, foldl_forgetPhase] at hfold
    exact hfold
  · rintro task - ⟨current, placed⟩ ⟨current', placed'⟩ ⟨hcurrent, hplaced⟩
    obtain rfl : placed = placed' := hplaced
    exact h.planTask now profile hcurrent placed task

/-- All rounds. `Inv` carries what makes the ready tasks of both passes the same, from a round in
which a task was placed to the next one. -/
theorem SameCandidates.rounds (h : SameCandidates registry state registry' state')
    {hash hash' : IterationOrder} {strategy strategy' : Option SchedulingStrategy}
    {pendingTasks pendingTasks' : List PendingTask} (Inv : Nat → PlanState → PlanState → Prop)
    (hready : ∀ round s t, s.Matches t → Inv round s t →
      (collectReadyTasks hash strategy pendingTasks round s).map PendingTask.forgetPhase =
        (collectReadyTasks hash' strategy' pendingTasks' round t).map PendingTask.forgetPhase)
    (hnext : ∀ round s t, s.Matches t → Inv round s t →
      ((collectReadyTasks hash strategy pendingTasks round s).foldl
        (Core.planTask registry state now profile)
        (s, false)).2 = true →
      Inv (round + 1)
        ((collectReadyTasks hash strategy pendingTasks round s).foldl
          (Core.planTask registry state now profile)
          (s, false)).1
        ((collectReadyTasks hash' strategy' pendingTasks' round t).foldl
          (Core.planTask registry' state' now profile) (t, false)).1)
    (fuel round : Nat) (hs : s.Matches t) (hinv : Inv round s t) :
    (planRounds hash registry state now strategy profile pendingTasks fuel round s).Matches
      (planRounds hash' registry' state' now strategy' profile pendingTasks' fuel round t) := by
  induction fuel generalizing round s t with
  | zero => exact hs
  | succ fuel ih =>
    have hsame := hready round s t hs hinv
    have hround := h.round now profile hs hsame false
    have hempty : (collectReadyTasks hash strategy pendingTasks round s).isEmpty =
        (collectReadyTasks hash' strategy' pendingTasks' round t).isEmpty := by
      rw [← List.isEmpty_map (f := PendingTask.forgetPhase), hsame, List.isEmpty_map]
    have hdone : s.remainingTaskIds = [] ↔ t.remainingTaskIds = [] := by
      constructor
      · intro hnil
        exact List.nil_perm.mp (hnil ▸ hs.remaining)
      · intro hnil
        exact List.perm_nil.mp (hnil ▸ hs.remaining)
    unfold planRounds
    dsimp only
    rw [hempty, hround.2]
    simp only [hdone]
    split_ifs with _ _ hprogress
    · exact hs
    · exact hs
    · exact ih (round + 1) hround.1 (hnext round s t hs hinv (hround.2.trans hprogress))
    · exact hround.1

end Passes

end TaskOrchestrator.Core
