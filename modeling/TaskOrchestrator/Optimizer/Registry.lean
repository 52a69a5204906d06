import TaskOrchestrator.Optimizer.SearchFeasibility

/-!
# The registry of backends

`WorkflowOptimizer` solves with the backend that is registered under the kind that its options
name, or with the first one there is. Which backends are linked is up to the build, so facts about
an optimizer are facts about every backend that may be there. The exact search is always linked.
-/

namespace TaskOrchestrator.Optimizer

open Library
open TaskOrchestrator.Core hiding earliestStart earliestStart_sound

set_option autoImplicit false

inductive BackendKind where
  | auto
  | indexedExact
  | orToolsCpSat
  | commercialMip
  deriving DecidableEq

abbrev Backend := OptimizationModel → ConstraintIndex → OptimizationOptions → OptimizationSolution

/-- A registered backend. A factory that returns no backend is `none`. -/
structure BackendEntry where
  kind : BackendKind
  name : String
  available : Bool := true
  factory : Option Backend

def kBackendAutoOrder : List BackendKind := [.orToolsCpSat, .commercialMip, .indexedExact]

def backendKindFromString (value : String) : BackendKind :=
  if value = "indexed_exact" ∨ value = "indexed_branch_and_bound" then .indexedExact
  else if value = "ortools_cp_sat" ∨ value = "cp_sat" ∨ value = "ortools" then .orToolsCpSat
  else if value = "commercial_mip" ∨ value = "mip" then .commercialMip
  else .auto

def backendKindToString : BackendKind → String
  | .indexedExact => "indexed_exact"
  | .orToolsCpSat => "ortools_cp_sat"
  | .commercialMip => "commercial_mip"
  | .auto => "auto"

section Create

variable (entries : List BackendEntry)

def createBackendForRegisteredKind (kind : BackendKind) : Except String Backend :=
  match entries.find? fun entry => entry.kind = kind with
  | none =>
    .error ("Requested backend '" ++ backendKindToString kind ++
      "' is not linked into this binary.")
  | some entry =>
    if !entry.available
      then .error ("Requested backend '" ++ entry.name ++ "' is registered but not available.")
    else
      match entry.factory with
      | some backend => .ok backend
      | none => .error ""

def createBackend (kind : BackendKind) : Except String Backend :=
  if kind = .auto then
    match kBackendAutoOrder.findSome? fun candidateKind =>
      (createBackendForRegisteredKind entries candidateKind).toOption with
    | some backend => .ok backend
    | none => .error "No optimization backend is available."
  else createBackendForRegisteredKind entries kind

/-- `WorkflowOptimizer::optimize`. -/
def optimize (kind : BackendKind) (options : OptimizationOptions) (model : OptimizationModel) :
    OptimizationSolution :=
  match createBackend entries kind with
  | .ok backend => backend model (ConstraintIndex.build model) options
  | .error message =>
    { ok := false
      backendName := backendKindToString kind
      errorMessage := if message = "" then "No optimization backend available." else message }

end Create

def indexedExactEntry : BackendEntry where
  kind := .indexedExact
  name := "indexed_exact"
  factory := some solve

def registeredAlone (backend : Backend) : List BackendEntry :=
  [{ kind := .indexedExact, name := "", factory := some backend },
    { kind := .orToolsCpSat, name := "", factory := some backend },
    { kind := .commercialMip, name := "", factory := some backend }]

theorem createBackend_registeredAlone (backend : Backend) (kind : BackendKind) :
    createBackend (registeredAlone backend) kind = .ok backend := by
  cases kind <;> rfl

section Plans

variable {entries : List BackendEntry} {kind : BackendKind} {options : OptimizationOptions}
variable {model : OptimizationModel}

theorem createBackendForRegisteredKind_mem {backend : Backend}
    (h : createBackendForRegisteredKind entries kind = .ok backend) :
    ∃ entry ∈ entries, entry.factory = some backend := by
  unfold createBackendForRegisteredKind at h
  split at h
  · exact absurd h (by simp)
  · rename_i entry hfind
    split_ifs at h
    split at h
    · rename_i made hmade
      exact ⟨entry, List.mem_of_find?_eq_some hfind, hmade.trans (congrArg some (Except.ok.inj h))⟩
    · exact absurd h (by simp)

theorem createBackend_mem {backend : Backend} (h : createBackend entries kind = .ok backend) :
    ∃ entry ∈ entries, entry.factory = some backend := by
  unfold createBackend at h
  split_ifs at h
  · split at h
    · rename_i found hfound
      obtain ⟨candidateKind, -, hcandidate⟩ := List.exists_of_findSome?_eq_some hfound
      cases hcreated : createBackendForRegisteredKind entries candidateKind with
      | error message =>
        rw [hcreated] at hcandidate
        exact absurd hcandidate (by simp [Except.toOption])
      | ok made =>
        rw [hcreated] at hcandidate
        obtain rfl := Option.some.inj hcandidate
        obtain rfl := Except.ok.inj h
        exact createBackendForRegisteredKind_mem hcreated
    · exact absurd h (by simp)
  · exact createBackendForRegisteredKind_mem h

theorem mem_optimize_assignments {a : OptimizedAssignment}
    (ha : a ∈ (optimize entries kind options model).assignments) :
    ∃ entry ∈ entries, ∃ backend, entry.factory = some backend ∧
      a ∈ (backend model (ConstraintIndex.build model) options).assignments := by
  unfold optimize at ha
  split at ha
  · rename_i backend hcreated
    obtain ⟨entry, hentry, hfactory⟩ := createBackend_mem hcreated
    exact ⟨entry, hentry, backend, hfactory, ha⟩
  · exact absurd ha (by simp)

def AssignsTask (model : OptimizationModel) (a : OptimizedAssignment) : Prop :=
  ∃ task ∈ model.tasks, task.id = a.taskId

/-- The assignment is one of a task of the model, and a task that takes time stays within a window
of its actor. -/
def PlacesInWindow (model : OptimizationModel) (a : OptimizedAssignment) : Prop :=
  ∃ task ∈ model.tasks, task.id = a.taskId ∧
    (0 < task.duration → ∃ actor ∈ model.actors, actor.id = a.actorId ∧
      ∃ window ∈ actor.availabilityWindows, window.start ≤ a.startTime ∧
        a.startTime + task.duration ≤ window.stop)

/-- Every assignment that a backend makes for a model has the property. -/
def AllPlans (P : OptimizationModel → OptimizedAssignment → Prop)
    (entries : List BackendEntry) : Prop :=
  ∀ entry ∈ entries, ∀ backend, entry.factory = some backend → ∀ model options,
    ∀ a ∈ (backend model (ConstraintIndex.build model) options).assignments, P model a

theorem allPlans_registeredAlone {P : OptimizationModel → OptimizedAssignment → Prop}
    {backend : Backend}
    (h : ∀ model options, ∀ a ∈ (backend model (ConstraintIndex.build model) options).assignments,
      P model a) :
    AllPlans P (registeredAlone backend) := by
  intro entry hentry other hfactory
  have halone : entry.factory = some backend := by
    simp only [registeredAlone, List.mem_cons, List.not_mem_nil, or_false] at hentry
    rcases hentry with rfl | rfl | rfl <;> rfl
  obtain rfl := Option.some.inj (halone.symm.trans hfactory)
  exact h

theorem AllPlans.mono {P Q : OptimizationModel → OptimizedAssignment → Prop}
    (h : AllPlans P entries) (himp : ∀ model a, P model a → Q model a) : AllPlans Q entries :=
  fun entry hentry backend hfactory model options a ha =>
    himp model a (h entry hentry backend hfactory model options a ha)

theorem PlacesInWindow.assignsTask {a : OptimizedAssignment} (h : PlacesInWindow model a) :
    AssignsTask model a := by
  obtain ⟨task, htask, hid, -⟩ := h
  exact ⟨task, htask, hid⟩

theorem AllPlans.optimize {P : OptimizationModel → OptimizedAssignment → Prop}
    (h : AllPlans P entries) {a : OptimizedAssignment}
    (ha : a ∈ (optimize entries kind options model).assignments) : P model a := by
  obtain ⟨entry, hentry, backend, hfactory, hassigned⟩ := mem_optimize_assignments ha
  exact h entry hentry backend hfactory model options a hassigned

end Plans

section Search

variable {model : OptimizationModel} {options : OptimizationOptions}

theorem mem_actors_of_eligible {task : OptimizerTask} {actor : OptimizerActor}
    (h : actor ∈ (ConstraintIndex.build model).eligibleActorsForTask task) :
    actor ∈ model.actors := by
  obtain ⟨pointer, hpointer, rfl⟩ := List.mem_map.mp h
  rw [← mem_actorPointers_actor]
  refine ⟨pointer, ?_, rfl⟩
  simp only [ConstraintIndex.build, Dictionary.lookup_foldl_emplace, Dictionary.lookup_empty,
    Option.none_or] at hpointer
  cases hfound : model.tasks.find? fun other => other.id = task.id with
  | none => simp [hfound] at hpointer
  | some listed =>
    rw [hfound, Option.map_some, Option.getD_some] at hpointer
    unfold buildEligibleActorsForTask at hpointer
    split_ifs at hpointer
    · obtain ⟨id, -, hlookup⟩ := List.mem_filterMap.mp hpointer
      have hindexed := (Option.filter_eq_some_iff.mp hlookup).1
      rw [Dictionary.lookup_foldl_assign_items, Dictionary.lookup_empty, Option.or_none,
        Option.map_id'] at hindexed
      exact List.mem_reverse.mp (List.mem_of_find?_eq_some hindexed)
    · simp only [mem_destutter, (perm_sortBy _ _).mem_iff, List.mem_flatMap] at hpointer
      obtain ⟨type, -, hmem⟩ := hpointer
      exact ((mem_actorsByType type pointer).mp hmem).1
    · exact hpointer

theorem windows_kept :
    KeptBySearch model (ConstraintIndex.build model) fun s =>
      ∀ a ∈ s.schedule, PlacesInWindow model a where
  drop := fun _ _ _ hs _ _ => hs
  place := by
    intro s task candidate hcandidate hs hready a ha
    rw [SearchInvariant.schedule_place] at ha
    rcases List.mem_append.mp ha with ha | ha
    · exact hs a ha
    · obtain rfl := List.mem_singleton.mp ha
      obtain ⟨-, actor, hoffers⟩ := offers_of_mem hcandidate
      refine ⟨task, hready.mem, rfl, fun hduration => ?_⟩
      obtain ⟨hwindow, -⟩ := (earliestStart_sound hoffers.start).2 hduration
      exact ⟨actor, mem_actors_of_eligible hoffers.eligible, hoffers.actorId.symm, hwindow⟩

theorem solve_placesInWindow {a : OptimizedAssignment}
    (ha : a ∈ (solve model (ConstraintIndex.build model) options).assignments) :
    PlacesInWindow model a := by
  cases hok : (solve model (ConstraintIndex.build model) options).ok with
  | false =>
    rw [solve_failed hok] at ha
    exact absurd ha (by simp)
  | true =>
    obtain ⟨state, hleaf, hassignments, -⟩ := solve_leaf hok
    rw [hassignments] at ha
    exact windows_kept.below (by simp [SearchState.schedule, rootState]) hleaf.below a ha

/-- The exact search alone places every task in a window of its actor. -/
theorem indexedExact_placesInWindow : AllPlans PlacesInWindow [indexedExactEntry] := by
  intro entry hentry backend hfactory model options a ha
  obtain rfl := List.mem_singleton.mp hentry
  obtain rfl := Option.some.inj hfactory
  exact solve_placesInWindow ha

end Search

end TaskOrchestrator.Optimizer
