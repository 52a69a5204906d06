import TaskOrchestrator.Optimizer.Model
import Mathlib.Data.List.Destutter

/-!
# The constraint index

The lookup tables that the backends share. The actors that a task may run on are listed in
advance, along one of three paths: by the task's actor ids, by its actor types, or all of
them. With unique ids all three come to one condition on the actor.
-/

namespace TaskOrchestrator.Optimizer

open Library TaskOrchestrator.Core

set_option autoImplicit false

/-- A pointer to an actor of the model: two of them are equal when they point to the same
position. -/
structure ActorPointer where
  position : Nat
  actor : OptimizerActor
  deriving DecidableEq

def OptimizationModel.actorPointers (model : OptimizationModel) : List ActorPointer :=
  model.actors.zipIdx.map fun entry => ⟨entry.2, entry.1⟩

theorem OptimizationModel.map_actorPointers (model : OptimizationModel) :
    model.actorPointers.map ActorPointer.actor = model.actors := by
  unfold actorPointers
  rw [List.map_map]
  exact List.zipIdx_map_fst 0 model.actors

structure ConstraintIndex where
  tasksById : Dictionary TaskId OptimizerTask
  actorsById : Dictionary ActorId ActorPointer
  actorsByType : Dictionary String (List ActorPointer)
  eligibleActorsByTask : Dictionary TaskId (List ActorPointer)
  successorsByTask : Dictionary TaskId (List TaskId)

/-- By type the actors are sorted by id, and neighbours that are the same pointer are one. -/
def buildEligibleActorsForTask (model : OptimizationModel)
    (actorsById : Dictionary ActorId ActorPointer)
    (actorsByType : Dictionary String (List ActorPointer)) (task : OptimizerTask) :
    List ActorPointer :=
  if task.allowedActorIds ≠ [] then
    task.allowedActorIds.filterMap fun allowedActorId =>
      (actorsById.lookup allowedActorId).filter fun pointer =>
        task.allowedActorTypes = [] ∨ pointer.actor.type ∈ task.allowedActorTypes
  else if task.allowedActorTypes ≠ [] then
    let eligibleActors := task.allowedActorTypes.flatMap fun allowedActorType =>
      (actorsByType.lookup allowedActorType).getD []
    (sortBy (fun lhs rhs => lhs.actor.id < rhs.actor.id) eligibleActors).destutter (· ≠ ·)
  else model.actorPointers

namespace ConstraintIndex

def build (model : OptimizationModel) : ConstraintIndex :=
  let actorsById :=
    model.actorPointers.foldl (fun d pointer => d.assign pointer.actor.id pointer) .empty
  let actorsByType :=
    model.actorPointers.foldl (fun d pointer => d.pushBack pointer.actor.type pointer) .empty
  { tasksById := model.tasks.foldl (fun d task => d.assign task.id task) .empty
    actorsById := actorsById
    actorsByType := actorsByType
    eligibleActorsByTask := model.tasks.foldl (fun d task =>
      d.emplace task.id (buildEligibleActorsForTask model actorsById actorsByType task)) .empty
    successorsByTask := model.tasks.foldl (fun d task =>
      task.dependencyTaskIds.foldl (fun d dependencyId => d.pushBack dependencyId task.id)
        d) .empty }

def task (index : ConstraintIndex) (id : TaskId) : Option OptimizerTask := index.tasksById.lookup id

def actor (index : ConstraintIndex) (id : ActorId) : Option OptimizerActor :=
  (index.actorsById.lookup id).map ActorPointer.actor

def eligibleActorsForTask (index : ConstraintIndex) (task : OptimizerTask) : List OptimizerActor :=
  ((index.eligibleActorsByTask.lookup task.id).getD []).map ActorPointer.actor

def successors (index : ConstraintIndex) (id : TaskId) : List TaskId :=
  (index.successorsByTask.lookup id).getD []

def dependenciesSatisfied (task : OptimizerTask) (scheduled dropped : List TaskId) : Bool :=
  task.dependencyTaskIds.all fun dependencyId => dependencyId ∈ scheduled && dependencyId ∉ dropped

def dependencyBlocked (task : OptimizerTask) (dropped : List TaskId) : Bool :=
  task.dependencyTaskIds.any fun dependencyId => dependencyId ∈ dropped

end ConstraintIndex

structure Allows (task : OptimizerTask) (actor : OptimizerActor) : Prop where
  id : task.allowedActorIds = [] ∨ actor.id ∈ task.allowedActorIds
  type : task.allowedActorTypes = [] ∨ actor.type ∈ task.allowedActorTypes

instance (task : OptimizerTask) (actor : OptimizerActor) : Decidable (Allows task actor) :=
  decidable_of_iff ((task.allowedActorIds = [] ∨ actor.id ∈ task.allowedActorIds) ∧
    (task.allowedActorTypes = [] ∨ actor.type ∈ task.allowedActorTypes))
    ⟨fun h => ⟨h.1, h.2⟩, fun h => ⟨h.id, h.type⟩⟩

theorem mem_destutter' {α : Type} [DecidableEq α] {xs : List α} {x first : α} :
    x ∈ xs.destutter' (· ≠ ·) first ↔ x = first ∨ x ∈ xs := by
  induction xs generalizing first with
  | nil => simp
  | cons y rest ih =>
    rw [List.destutter'_cons]
    split_ifs with hne
    · rw [List.mem_cons, ih, List.mem_cons]
    · obtain rfl := not_not.mp hne
      rw [ih, List.mem_cons]
      tauto

theorem mem_destutter {α : Type} [DecidableEq α] {xs : List α} {x : α} :
    x ∈ xs.destutter (· ≠ ·) ↔ x ∈ xs := by
  cases xs with
  | nil => simp
  | cons y rest => rw [List.destutter_cons', mem_destutter', List.mem_cons]

section Eligible

variable {model : OptimizationModel}

theorem mem_actorPointers_actor {actor : OptimizerActor} :
    (∃ pointer ∈ model.actorPointers, pointer.actor = actor) ↔ actor ∈ model.actors := by
  rw [← List.mem_map, model.map_actorPointers]

theorem lookup_actorsById (h : model.UniqueIds) (id : ActorId) (pointer : ActorPointer) :
    (ConstraintIndex.build model).actorsById.lookup id = some pointer ↔
      pointer ∈ model.actorPointers ∧ pointer.actor.id = id := by
  have hnodup : (model.actorPointers.reverse.map fun pointer => pointer.actor.id).Nodup := by
    rw [List.map_reverse, List.nodup_reverse]
    have hids := h.actors
    rw [← model.map_actorPointers, List.map_map] at hids
    exact hids
  simp only [ConstraintIndex.build, Dictionary.lookup_foldl_assign_items, Dictionary.lookup_empty,
    Option.or_none, Option.map_id']
  rw [← List.mem_reverse]
  exact KeyedRows.get?_eq_some_iff ⟨_, hnodup⟩ id pointer

theorem mem_actorsByType (type : String) (pointer : ActorPointer) :
    pointer ∈ ((ConstraintIndex.build model).actorsByType.lookup type).getD [] ↔
      pointer ∈ model.actorPointers ∧ pointer.actor.type = type := by
  simp [ConstraintIndex.build, Dictionary.getD_lookup_foldl_pushBack]

theorem mem_buildEligibleActorsForTask (h : model.UniqueIds) (task : OptimizerTask)
    (pointer : ActorPointer) :
    pointer ∈ buildEligibleActorsForTask model (ConstraintIndex.build model).actorsById
      (ConstraintIndex.build model).actorsByType task ↔
        pointer ∈ model.actorPointers ∧ Allows task pointer.actor := by
  unfold buildEligibleActorsForTask
  split_ifs with hids htypes
  · simp only [List.mem_filterMap, Option.filter_eq_some_iff, lookup_actorsById h,
      decide_eq_true_eq]
    constructor
    · rintro ⟨id, hid, ⟨hmem, rfl⟩, htype⟩
      exact ⟨hmem, Or.inr hid, htype⟩
    · rintro ⟨hmem, hallows⟩
      have hid := hallows.id.resolve_left hids
      exact ⟨pointer.actor.id, hid, ⟨hmem, rfl⟩, hallows.type⟩
  · rw [not_not] at hids
    simp only [mem_destutter, (perm_sortBy _ _).mem_iff, List.mem_flatMap, mem_actorsByType]
    constructor
    · rintro ⟨type, htype, hmem, rfl⟩
      exact ⟨hmem, Or.inl hids, Or.inr htype⟩
    · rintro ⟨hmem, hallows⟩
      exact ⟨pointer.actor.type, hallows.type.resolve_left htypes, hmem, rfl⟩
  · rw [not_not] at hids htypes
    exact ⟨fun hmem => ⟨hmem, Or.inl hids, Or.inl htypes⟩, fun hmem => hmem.1⟩

theorem mem_eligibleActorsForTask (h : model.UniqueIds) {task : OptimizerTask}
    (htask : task ∈ model.tasks) (actor : OptimizerActor) :
    actor ∈ (ConstraintIndex.build model).eligibleActorsForTask task ↔
      actor ∈ model.actors ∧ Allows task actor := by
  have hfind : (model.tasks.find? fun other => other.id = task.id) = some task :=
    (KeyedRows.get?_eq_some_iff ⟨model.tasks, h.tasks⟩ task.id task).mpr ⟨htask, rfl⟩
  have hlookup : (ConstraintIndex.build model).eligibleActorsByTask.lookup task.id =
      some (buildEligibleActorsForTask model (ConstraintIndex.build model).actorsById
        (ConstraintIndex.build model).actorsByType task) := by
    simp only [ConstraintIndex.build, Dictionary.lookup_foldl_emplace, Dictionary.lookup_empty,
      Option.none_or, hfind, Option.map_some]
  rw [ConstraintIndex.eligibleActorsForTask, hlookup, Option.getD_some, List.mem_map]
  simp only [mem_buildEligibleActorsForTask h]
  rw [← mem_actorPointers_actor]
  constructor
  · rintro ⟨pointer, ⟨hmem, hallows⟩, rfl⟩
    exact ⟨⟨pointer, hmem, rfl⟩, hallows⟩
  · rintro ⟨⟨pointer, hmem, rfl⟩, hallows⟩
    exact ⟨pointer, ⟨hmem, hallows⟩, rfl⟩

end Eligible

end TaskOrchestrator.Optimizer
