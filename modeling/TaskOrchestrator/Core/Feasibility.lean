import TaskOrchestrator.Core.Scheduler
import TaskOrchestrator.Library.Load

/-!
# Feasible plans

What a plan of the runtime scheduler has to satisfy, in terms of the workflow, the state and
the actors alone, and that every plan the scheduler returns does. The invariant of the rounds
reads the two tables of a planning pass as what the plan so far makes of them.
-/

namespace TaskOrchestrator.Core

open Library

set_option autoImplicit false

section Specification

variable (workflow : Workflow) (state : WorkflowState) (registry : ActorRegistry) (now : Time)

def taskDuration (taskId : TaskId) : Duration := durationOf (workflow.processForTask taskId)

def taskDemand (taskId : TaskId) : Int := demandOf (workflow.processForTask taskId)

/-- The task belongs to a phase that is not completed and whose predecessors all are. -/
def InReadyPhase (taskId : TaskId) : Prop :=
  ∃ phase ∈ workflow.phases.rows, phase.id ∉ state.completedPhases ∧
    (∀ dep ∈ phase.dependencyPhaseIds, dep ∈ state.completedPhases) ∧
    ∃ processId ∈ phase.processIds, ∃ process, workflow.process processId = some process ∧
      taskId ∈ process.taskIds

/-- The actors that a task is restricted to, by the state or else by its process; none is no
restriction. -/
def allowList (taskId : TaskId) : List ActorId :=
  (state.taskAllowedActors.lookup taskId).getD
    (((workflow.processForTask taskId).map Process.allowedActorIds).getD [])

def releaseTime (taskId : TaskId) : Time :=
  (state.taskReleaseTime.lookup taskId).getD
    (((workflow.processForTask taskId).map Process.releaseTime).getD kDefaultTaskReleaseTime)

structure Suits (taskId : TaskId) (actor : Actor) : Prop where
  allowed : allowList workflow state taskId = [] ∨ actor.id ∈ allowList workflow state taskId
  typed : ∀ process ∈ workflow.processForTask taskId,
    process.allowedActorTypes = [] ∨ actor.type ∈ process.allowedActorTypes
  capable : ∀ process ∈ workflow.processForTask taskId, ∀ capability ∈ process.requiredCapabilities,
    capability ∈ actor.capabilities
  fits : taskDemand workflow taskId ≤ actor.capacity

structure Admissible (a : Assignment) (actor : Actor) : Prop where
  ready : InReadyPhase workflow state a.taskId
  notInFlight : a.taskId ∉ state.assignedTasks
  notCompleted : a.taskId ∉ state.completedTasks
  resumable : a.taskId ∉ state.unresumableTasks
  available : a.actorId ∉ state.unavailableActors
  suits : Suits workflow state a.taskId actor
  afterNow : now ≤ a.startTime
  released : releaseTime workflow state a.taskId ≤ a.startTime
  latestStart : ∀ process ∈ workflow.processForTask a.taskId, ∀ latest ∈ process.latestStartTime,
    a.startTime ≤ latest
  deadline : ∀ process ∈ workflow.processForTask a.taskId, ∀ deadline ∈ process.deadline,
    a.startTime + taskDuration workflow a.taskId ≤ deadline
  window : 0 < taskDuration workflow a.taskId → ∃ window ∈ actor.availabilityWindows,
    window.start ≤ a.startTime ∧ a.startTime + taskDuration workflow a.taskId ≤ window.stop

def recordedCompletion (taskId : TaskId) : Time :=
  match state.taskActualCompletionTime.lookup taskId, state.taskPlannedEndTime.lookup taskId with
  | some actual, _ => actual
  | none, some planned => planned
  | none, none => now

/-- When a task in flight will be done: as it was planned, or else after its duration. -/
def plannedCompletion (taskId : TaskId) : Time :=
  match state.taskPlannedEndTime.lookup taskId with
  | some planned => planned
  | none => now + taskDuration workflow taskId

def DoneBy (plan : List Assignment) (taskId : TaskId) (instant : Time) : Prop :=
  (taskId ∈ state.assignedTasks ∧ plannedCompletion workflow state now taskId ≤ instant) ∨
  (taskId ∉ state.assignedTasks ∧ taskId ∈ state.completedTasks ∧
    recordedCompletion state now taskId ≤ instant) ∨
  ∃ b ∈ plan, b.taskId = taskId ∧ b.startTime + taskDuration workflow taskId ≤ instant

def inFlight : Weighing TaskId where
  start taskId := (assignedInterval workflow state now taskId).start
  stop taskId := (assignedInterval workflow state now taskId).stop
  weight taskId := (assignedInterval workflow state now taskId).demand

def inFlightDemandAt (actorId : ActorId) (instant : Time) : Int :=
  (inFlight workflow state now).load
    (state.assignedTasks.filter fun taskId => state.taskActor.lookup taskId = some actorId) instant

/-- The demand on an actor before the plan: of the tasks in flight, and of the load that
they do not account for. -/
def reservedDemandAt (actorId : ActorId) (instant : Time) : Int :=
  inFlightDemandAt workflow state now actorId instant +
    if now ≤ instant ∧ instant < kOpaqueReservationEnd then
      max 0 (baselineLoad registry state actorId - inFlightDemandAt workflow state now actorId now)
    else 0

def planned : Weighing Assignment where
  start := Assignment.startTime
  stop a := a.startTime + taskDuration workflow a.taskId
  weight a := taskDemand workflow a.taskId

def assignedTo (actorId : ActorId) (plan : List Assignment) : List Assignment :=
  plan.filter fun a => a.actorId = actorId

/-- No task is assigned twice, every assignment is admissible and comes after its dependencies,
and no actor is over its capacity at an instant of an assignment. -/
structure Feasible (plan : List Assignment) : Prop where
  unique : (plan.map Assignment.taskId).Nodup
  admissible : ∀ a ∈ plan, ∃ actor, registry.get a.actorId = some actor ∧
    Admissible workflow state now a actor
  dependencies : ∀ a ∈ plan, ∀ process ∈ workflow.processForTask a.taskId,
    ∀ dep ∈ process.dependencyTaskIds, DoneBy workflow state now plan dep a.startTime
  capacity : ∀ actorId actor, registry.get actorId = some actor →
    (planned workflow).Within (reservedDemandAt workflow state registry now actorId) actor.capacity
      (assignedTo actorId plan)

/-- What is true of every assignment of a plan, also of one of a task in flight that is marked
resumable and planned once more. -/
structure Offered (a : Assignment) (actor : Actor) : Prop where
  registered : registry.get a.actorId = some actor
  available : a.actorId ∉ state.unavailableActors
  ready : InReadyPhase workflow state a.taskId
  afterNow : now ≤ a.startTime

variable {workflow state registry now}

theorem completedTime_eq (taskId : TaskId) :
    completedTime state now taskId = recordedCompletion state now taskId := by
  unfold completedTime recordedCompletion
  cases state.taskActualCompletionTime.lookup taskId <;> cases state.taskPlannedEndTime.lookup
    taskId <;> rfl

theorem plannedTime_eq (taskId : TaskId) :
    plannedTime workflow state now taskId = plannedCompletion workflow state now taskId := by
  unfold plannedTime plannedCompletion
  cases state.taskPlannedEndTime.lookup taskId <;> rfl

theorem DoneBy.mono {plan larger : List Assignment} {taskId : TaskId} {instant : Time}
    (h : DoneBy workflow state now plan taskId instant) (hsub : ∀ a ∈ plan, a ∈ larger) :
    DoneBy workflow state now larger taskId instant := by
  rcases h with hinFlight | hcompleted | ⟨b, hb, hdone⟩
  · exact Or.inl hinFlight
  · exact Or.inr (Or.inl hcompleted)
  · exact Or.inr (Or.inr ⟨b, hsub b hb, hdone⟩)

theorem DoneBy.later {plan : List Assignment} {taskId : TaskId} {instant later : Time}
    (h : DoneBy workflow state now plan taskId instant) (hle : instant ≤ later) :
    DoneBy workflow state now plan taskId later := by
  rcases h with ⟨hmem, htime⟩ | ⟨hnot, hmem, htime⟩ | ⟨b, hb, hid, htime⟩
  · exact Or.inl ⟨hmem, htime.trans hle⟩
  · exact Or.inr (Or.inl ⟨hnot, hmem, htime.trans hle⟩)
  · exact Or.inr (Or.inr ⟨b, hb, hid, htime.trans hle⟩)

theorem assignedTo_append (actorId : ActorId) (plan : List Assignment) (a : Assignment) :
    assignedTo actorId (plan ++ [a]) =
      assignedTo actorId plan ++ if a.actorId = actorId then [a] else [] := by
  simp only [assignedTo, List.filter_append, List.filter_cons, List.filter_nil, decide_eq_true_eq]

theorem Feasible.nil : Feasible workflow state registry now [] where
  unique := List.nodup_nil
  admissible := by simp
  dependencies := by simp
  capacity := by
    intro actorId actor _ a ha
    exact absurd ha (by simp [assignedTo])

theorem capacity_append {plan : List Assignment} {a : Assignment} {actor : Actor}
    (h : ∀ actorId actor, registry.get actorId = some actor →
      (planned workflow).Within (reservedDemandAt workflow state registry now actorId)
        actor.capacity
        (assignedTo actorId plan))
    (hactor : registry.get a.actorId = some actor)
    (hfits : ∀ instant, (planned workflow).Covers a instant →
      reservedDemandAt workflow state registry now a.actorId instant +
        (planned workflow).load (assignedTo a.actorId plan) instant + taskDemand workflow a.taskId ≤
          actor.capacity) :
    ∀ actorId actor, registry.get actorId = some actor →
      (planned workflow).Within (reservedDemandAt workflow state registry now actorId)
        actor.capacity
        (assignedTo actorId (plan ++ [a])) := by
  intro actorId other hother
  rw [assignedTo_append]
  split_ifs with hid
  · subst hid
    obtain rfl := Option.some.inj (hactor.symm.trans hother)
    exact (h a.actorId actor hactor).append hfits
  · rw [List.append_nil]
    exact h actorId other hother

/-- A new assignment that is admissible, comes after its dependencies and fits keeps a plan
feasible. -/
theorem Feasible.append {plan : List Assignment} {a : Assignment} {actor : Actor}
    (h : Feasible workflow state registry now plan) (hnew : ∀ b ∈ plan, b.taskId ≠ a.taskId)
    (hactor : registry.get a.actorId = some actor)
    (hadmissible : Admissible workflow state now a actor)
    (hdependencies : ∀ process ∈ workflow.processForTask a.taskId,
      ∀ dep ∈ process.dependencyTaskIds, DoneBy workflow state now plan dep a.startTime)
    (hfits : ∀ instant, (planned workflow).Covers a instant →
      reservedDemandAt workflow state registry now a.actorId instant + (planned workflow).load
      (assignedTo a.actorId plan) instant + taskDemand workflow a.taskId ≤ actor.capacity) :
    Feasible workflow state registry now (plan ++ [a]) := by
  have hsub : ∀ b ∈ plan, b ∈ plan ++ [a] := fun b hb => List.mem_append_left _ hb
  constructor
  · rw [List.map_append, List.nodup_append]
    refine ⟨h.unique, by simp, ?_⟩
    intro id hid other hother heq
    obtain ⟨b, hb, rfl⟩ := List.mem_map.mp hid
    exact hnew b hb (by simpa [heq] using hother)
  · intro b hb
    rcases List.mem_append.mp hb with hb | hb
    · exact h.admissible b hb
    · obtain rfl := List.mem_singleton.mp hb
      exact ⟨actor, hactor, hadmissible⟩
  · intro b hb process hprocess dep hdep
    rcases List.mem_append.mp hb with hb | hb
    · exact (h.dependencies b hb process hprocess dep hdep).mono hsub
    · obtain rfl := List.mem_singleton.mp hb
      exact (hdependencies process hprocess dep hdep).mono hsub
  · exact capacity_append h.capacity hactor hfits

theorem Feasible.perm {plan other : List Assignment} (h : Feasible workflow state registry now plan)
    (hperm : plan.Perm other) : Feasible workflow state registry now other where
  unique := (hperm.map _).nodup_iff.mp h.unique
  admissible := fun a ha => h.admissible a (hperm.mem_iff.mpr ha)
  dependencies := fun a ha process hprocess dep hdep =>
    (h.dependencies a (hperm.mem_iff.mpr ha) process hprocess dep hdep).mono fun _ hb =>
      hperm.mem_iff.mp hb
  capacity := fun actorId actor hactor => (h.capacity actorId actor hactor).perm (hperm.filter _)

end Specification

end TaskOrchestrator.Core
