import TaskOrchestrator.Library.Comparators
import TaskOrchestrator.Library.KeyedRows
import TaskOrchestrator.Protocol.Messages
import Mathlib.Data.List.Sort

/-!
# Workflows and actors of the planning engine

The data model of the runtime scheduler and the lookups in it. The rows of a table stand in
the order in which the hash container is iterated, so a statement about every workflow is one
about every such order. Times and demands are unbounded integers here, a `double` is the
rational number it denotes.
-/

namespace TaskOrchestrator.Core

open Library

set_option autoImplicit false

/-- `std::ranges::sort` with a comparator. Elements that the comparator calls equivalent keep
their order here; the standard leaves it open. -/
def sortBy {α : Type} (less : α → α → Bool) (xs : List α) : List α :=
  xs.insertionSort fun a b => less b a = false

theorem perm_sortBy {α : Type} (less : α → α → Bool) (xs : List α) : (sortBy less xs).Perm xs :=
  List.perm_insertionSort _ xs

theorem pairwise_sortBy {α : Type} {less : α → α → Bool} (h : StrictWeak less) (xs : List α) :
    (sortBy less xs).Pairwise fun a b => less b a = false := by
  have htotal : Std.Total fun a b => less b a = false := by
    constructor
    intro a b
    cases hab : less a b with
    | false => exact Or.inr rfl
    | true => exact Or.inl (h.asymm a b hab)
  have hpreorder : IsTrans α fun a b => less b a = false := ⟨h.trans⟩
  exact List.pairwise_insertionSort _ xs

theorem head?_sortBy_eq_some_iff {α : Type} {less : α → α → Bool} (h : StrictWeak less)
    {xs : List α} (hdistinct : ∀ a ∈ xs, ∀ b ∈ xs, Tied less a b → a = b) {m : α} :
    (sortBy less xs).head? = some m ↔ m ∈ xs ∧ ∀ a ∈ xs, less a m = false := by
  have hperm := perm_sortBy less xs
  have hsorted := pairwise_sortBy h xs
  cases hxs : sortBy less xs with
  | nil =>
    rw [hxs] at hperm
    simp [hperm.symm.eq_nil]
  | cons first rest =>
    rw [hxs] at hperm hsorted
    have hfirst : first ∈ xs := hperm.mem_iff.mp List.mem_cons_self
    have hleast : ∀ a ∈ xs, less a first = false := by
      intro a ha
      rcases List.mem_cons.mp (hperm.mem_iff.mpr ha) with rfl | ha
      · cases hself : less a a with
        | false => rfl
        | true => exact absurd (h.asymm a a hself) (by simp [hself])
      · exact (List.pairwise_cons.mp hsorted).1 a ha
    rw [List.head?_cons, Option.some_inj]
    constructor
    · rintro rfl
      exact ⟨hfirst, hleast⟩
    · rintro ⟨hm, hmLeast⟩
      exact hdistinct first hfirst m hm ⟨hmLeast first hfirst, hleast m hm⟩

abbrev PhaseId := String
abbrev ProcessId := String

structure AvailabilityWindow where
  start : Time := 0
  stop : Time := 0
  deriving DecidableEq

structure Actor where
  id : ActorId
  type : String := ""
  capacity : Int := 1
  availabilityWindows : List AvailabilityWindow := []
  capabilities : List String := []
  executionCostPerUnit : Rat := 0
  currentLoad : Int := 0

structure Process where
  id : ProcessId
  subProcessIds : List TaskId := []
  estimatedDuration : Duration := 0
  priority : Priority := 0
  deadline : Option Time := none
  releaseTime : Time := 0
  latestStartTime : Option Time := none
  demand : Int := 1
  preemptible : Bool := false
  allowedActorTypes : List String := []
  allowedActorIds : List ActorId := []
  preferredActorIds : List ActorId := []
  requiredCapabilities : List String := []
  dependencyTaskIds : List TaskId := []
  mutuallyExclusiveTaskIds : List TaskId := []
  actorDistances : Dictionary ActorId Time := .empty

/-- The process itself and its sub-processes are tasks. -/
def Process.taskIds (process : Process) : List TaskId := process.id :: process.subProcessIds

structure Phase where
  id : PhaseId
  processIds : List ProcessId := []
  dependencyPhaseIds : List PhaseId := []

structure Workflow where
  phases : KeyedRows Phase.id := .empty
  processes : KeyedRows Process.id := .empty

namespace Workflow

def addPhase (workflow : Workflow) (p : Phase) : Workflow :=
  { workflow with phases := workflow.phases.put p }

def addProcess (workflow : Workflow) (p : Process) : Workflow :=
  { workflow with processes := workflow.processes.put p }

def phase (workflow : Workflow) (id : PhaseId) : Option Phase := workflow.phases.get? id

def process (workflow : Workflow) (id : ProcessId) : Option Process := workflow.processes.get? id

def phaseIds (workflow : Workflow) : List PhaseId := workflow.phases.rows.map Phase.id

/-- The phases that are not completed and whose predecessors all are. -/
def readyPhases (workflow : Workflow) (completedPhaseIds : List PhaseId) : List PhaseId :=
  (workflow.phases.rows.filter fun p =>
    p.id ∉ completedPhaseIds && p.dependencyPhaseIds.all fun dep => dep ∈ completedPhaseIds).map
      Phase.id

def taskIdsForPhase (workflow : Workflow) (phaseId : PhaseId) : List TaskId :=
  match workflow.phase phaseId with
  | none => []
  | some ph => ph.processIds.flatMap fun pid =>
    match workflow.process pid with
    | none => []
    | some proc => proc.taskIds

/-- The process with the id, or the first process in the order of iteration that has it as a
sub-process. -/
def processForTask (workflow : Workflow) (taskId : TaskId) : Option Process :=
  match workflow.process taskId with
  | some p => some p
  | none => workflow.processes.rows.find? fun proc => taskId ∈ proc.subProcessIds

theorem mem_rows_of_processForTask {workflow : Workflow} {taskId : TaskId} {p : Process}
    (h : workflow.processForTask taskId = some p) : p ∈ workflow.processes.rows := by
  unfold processForTask at h
  cases hown : workflow.process taskId with
  | some own =>
    rw [hown] at h
    obtain rfl := Option.some.inj h
    exact ((KeyedRows.get?_eq_some_iff _ _ _).mp hown).1
  | none =>
    rw [hown] at h
    exact List.mem_of_find?_eq_some h

end Workflow

structure ActorRegistry where
  actors : KeyedRows Actor.id := .empty

namespace ActorRegistry

def add (registry : ActorRegistry) (a : Actor) : ActorRegistry := ⟨registry.actors.put a⟩

def get (registry : ActorRegistry) (id : ActorId) : Option Actor := registry.actors.get? id

def actorIds (registry : ActorRegistry) : List ActorId :=
  sortBy (· < ·) (registry.actors.rows.map Actor.id)

theorem id_of_get {registry : ActorRegistry} {id : ActorId} {actor : Actor}
    (h : registry.get id = some actor) :
    actor.id = id :=
  KeyedRows.key_of_get? h

end ActorRegistry

end TaskOrchestrator.Core
