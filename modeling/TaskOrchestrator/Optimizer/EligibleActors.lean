import TaskOrchestrator.Optimizer.IndexedExact

/-!
# Eligible actors in the two engines

The exact backend looks the actors of a task up in the constraint index and then checks their
capacity and capabilities. The runtime scheduler asks every actor in turn. Both keep the actors
that one condition on task and actor describes.
-/

namespace TaskOrchestrator.Optimizer

open Library TaskOrchestrator.Core

set_option autoImplicit false

/-- The checks of an eligible actor with which `candidates_for_task` begins. -/
def passesActorChecks (task : OptimizerTask) (actor : OptimizerActor) : Bool :=
  !decide (task.demand > actor.capacity) && taskCapabilitiesSupported task actor

def survivingActors (model : OptimizationModel) (task : OptimizerTask) : List OptimizerActor :=
  ((ConstraintIndex.build model).eligibleActorsForTask task).filter (passesActorChecks task)

structure Eligible (task : OptimizerTask) (actor : OptimizerActor) :
    Prop extends Allows task actor where
  capabilities : ∀ capability ∈ task.requiredCapabilities, capability ∈ actor.capabilities
  capacity : task.demand ≤ actor.capacity

theorem candidateOn_of_fails {task : OptimizerTask} {actor : OptimizerActor} (state : SearchState)
    (h : passesActorChecks task actor = false) : candidateOn task state actor = none := by
  unfold candidateOn
  by_cases hdemand : task.demand > actor.capacity
  · simp [guard, hdemand]
  · have hcapable : taskCapabilitiesSupported task actor = false := by
      simpa [passesActorChecks, hdemand] using h
    simp [guard, hdemand, hcapable]

theorem candidatesForTask_eq_survivingActors (model : OptimizationModel) (task : OptimizerTask)
    (state : SearchState) :
    candidatesForTask task (ConstraintIndex.build model) state =
      if mutexBlocked task state then []
      else sortBy candidateLess
      ((survivingActors model task).filterMap (candidateOn task state)) := by
  have hfilter : ∀ actors : List OptimizerActor,
      (actors.filter (passesActorChecks task)).filterMap (candidateOn task state) =
        actors.filterMap (candidateOn task state) := by
    intro actors
    rw [List.filterMap_filter]
    apply List.filterMap_congr
    intro actor _
    split_ifs with hpasses
    · rfl
    · exact (candidateOn_of_fails state (by simpa using hpasses)).symm
  rw [survivingActors, hfilter, candidatesForTask]

theorem passesActorChecks_iff {task : OptimizerTask} {actor : OptimizerActor} :
    passesActorChecks task actor = true ↔
      (∀ capability ∈ task.requiredCapabilities, capability ∈ actor.capabilities) ∧
      task.demand ≤ actor.capacity := by
  simp [passesActorChecks, taskCapabilitiesSupported, and_comm]

theorem mem_survivingActors {model : OptimizationModel} (h : model.UniqueIds) {task : OptimizerTask}
    (htask : task ∈ model.tasks) (actor : OptimizerActor) :
    actor ∈ survivingActors model task ↔ actor ∈ model.actors ∧ Eligible task actor := by
  rw [survivingActors, List.mem_filter, mem_eligibleActorsForTask h htask, passesActorChecks_iff]
  constructor
  · rintro ⟨⟨hactor, hallows⟩, hcapable, hfits⟩
    exact ⟨hactor, hallows, hcapable, hfits⟩
  · rintro ⟨hactor, hallows, hcapable, hfits⟩
    exact ⟨⟨hactor, hallows⟩, hcapable, hfits⟩

/-- The pending task asks for what the task of the model asks for. Without a process it asks for
nothing but its demand. -/
structure SameConstraints (pending : PendingTask) (task : OptimizerTask) : Prop where
  allowedActorIds : (pending.process.map Process.allowedActorIds).getD [] = task.allowedActorIds
  allowedActorTypes : (pending.process.map Process.allowedActorTypes).getD [] =
    task.allowedActorTypes
  requiredCapabilities : (pending.process.map Process.requiredCapabilities).getD [] =
    task.requiredCapabilities
  demand : pending.info.demand = task.demand

structure SameActor (runtimeActor : Actor) (actor : OptimizerActor) : Prop where
  id : runtimeActor.id = actor.id
  type : runtimeActor.type = actor.type
  capacity : runtimeActor.capacity = actor.capacity
  capabilities : runtimeActor.capabilities = actor.capabilities

section Scheduler

variable {pending : PendingTask} {task : OptimizerTask} {runtimeActor : Actor}
variable {actor : OptimizerActor}

theorem effectiveAllowedActors_all {state : WorkflowState} (hids : SameConstraints pending task)
    (hnone : state.taskAllowedActors.lookup pending.info.id = none) (actorId : ActorId) :
    ((effectiveAllowedActors pending state).all fun actorIds => actorIds = [] ∨
      actorId ∈ actorIds) = true ↔
      task.allowedActorIds = [] ∨ actorId ∈ task.allowedActorIds := by
  rw [← hids.allowedActorIds, effectiveAllowedActors, effectiveActors, hnone]
  cases pending.process with
  | none => simp
  | some process =>
    by_cases hempty : process.allowedActorIds = []
    · simp [hempty]
    · simp [hempty]

theorem actorIsAllowed_iff_eligible {state : WorkflowState} (htask : SameConstraints pending task)
    (hactor : SameActor runtimeActor actor)
    (hnone : state.taskAllowedActors.lookup pending.info.id = none) :
    actorIsAllowed pending runtimeActor state = true ↔ Eligible task actor := by
  have htypes : actorMatchesTypeConstraints pending runtimeActor = true ↔
      task.allowedActorTypes = [] ∨ actor.type ∈ task.allowedActorTypes := by
    rw [← htask.allowedActorTypes, ← hactor.type, actorMatchesTypeConstraints]
    cases pending.process with
    | none => simp
    | some process => simp
  have hcapabilities : actorSupportsRequiredCapabilities pending runtimeActor = true ↔
      ∀ capability ∈ task.requiredCapabilities, capability ∈ actor.capabilities := by
    rw [← htask.requiredCapabilities, ← hactor.capabilities, actorSupportsRequiredCapabilities]
    cases pending.process with
    | none => simp
    | some process => simp
  unfold actorIsAllowed
  rw [Bool.and_eq_true, Bool.and_eq_true, Bool.and_eq_true,
    effectiveAllowedActors_all htask hnone, htypes, hcapabilities, decide_eq_true_eq, htask.demand,
    hactor.capacity, hactor.id]
  constructor
  · rintro ⟨⟨⟨hid, htype⟩, hcapable⟩, hfits⟩
    exact ⟨⟨hid, htype⟩, hcapable, hfits⟩
  · rintro ⟨⟨hid, htype⟩, hcapable, hfits⟩
    exact ⟨⟨⟨hid, htype⟩, hcapable⟩, hfits⟩

end Scheduler

/-- For every model with unique ids and every task of it the actors that survive the index and the
checks are the eligible actors of the model, and these are the actors that the scheduler accepts for
the same constraints without an override. The candidates of the search are made from them alone. -/
theorem survivingActors_eligible (model : OptimizationModel) (h : model.UniqueIds)
    (task : OptimizerTask) (htask : task ∈ model.tasks) (actor : OptimizerActor) :
    (actor ∈ survivingActors model task ↔ actor ∈ model.actors ∧ Eligible task actor) ∧
      (∀ pending runtimeActor state, SameConstraints pending task → SameActor runtimeActor actor →
        state.taskAllowedActors.lookup pending.info.id = none →
          (actor ∈ survivingActors model task ↔
            actor ∈ model.actors ∧ actorIsAllowed pending runtimeActor state = true)) ∧
      ∀ state, candidatesForTask task (ConstraintIndex.build model) state =
        if mutexBlocked task state then []
        else sortBy candidateLess
        ((survivingActors model task).filterMap (candidateOn task state)) := by
  refine ⟨mem_survivingActors h htask actor,
    fun pending runtimeActor state hsame hactor hnone =>
    ?_, candidatesForTask_eq_survivingActors model task⟩
  rw [mem_survivingActors h htask, actorIsAllowed_iff_eligible hsame hactor hnone]

def robotTask : OptimizerTask :=
  { id := "a", allowedActorTypes := ["robot", "robot", "ship"], requiredCapabilities := ["lift"] }

def ableRobot : OptimizerActor := { id := "x", type := "robot", capabilities := ["lift"] }

def robotsAndCrane : OptimizationModel where
  actors :=
    [ableRobot, { id := "y", type := "robot" },
      { id := "z", type := "crane", capabilities := ["lift"] }]
  tasks := [robotTask]

theorem robotsAndCrane_surviving :
    (ableRobot ∈ survivingActors robotsAndCrane robotTask ↔
        ableRobot ∈ robotsAndCrane.actors ∧ Eligible robotTask ableRobot) ∧
      (ableRobot ∈ survivingActors robotsAndCrane robotTask ↔
        ableRobot ∈ robotsAndCrane.actors ∧
          actorIsAllowed
            { info := { id := "a", phaseId := "p", duration := 5, priority := 0 }
              process := some { id := "a", allowedActorTypes := robotTask.allowedActorTypes,
                                requiredCapabilities := robotTask.requiredCapabilities } }
            { id := "x", type := "robot", capabilities := ["lift"] } {} = true) := by
  have hunique : robotsAndCrane.UniqueIds := ⟨by decide, by decide⟩
  have h := survivingActors_eligible robotsAndCrane hunique robotTask List.mem_cons_self ableRobot
  exact ⟨h.1, h.2.1 _ _ _ ⟨rfl, rfl, rfl, rfl⟩ ⟨rfl, rfl, rfl, rfl⟩ rfl⟩

end TaskOrchestrator.Optimizer
