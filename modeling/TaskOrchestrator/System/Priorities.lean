import TaskOrchestrator.Application.Overrides
import TaskOrchestrator.Application.Runner
import TaskOrchestrator.System.Agreement

/-!
# Priorities from the API to the optimizer

The API has priorities of 64 bits, a session and the optimizer have 32 bits, and the ranking of
ready tasks negates them. Both ways into a session convert without a check.
-/

namespace TaskOrchestrator.System

open Protocol Library ControlPlane

set_option autoImplicit false

section Sessions

variable {env : Environment} {P : App.WorkflowConfig → Prop}

def AllSessions (P : App.WorkflowConfig → Prop) (w : World) : Prop :=
  ∀ id session, w.sessions.lookup id = some session → P session

theorem AllSessions.refreshes (hmade : ∀ config, P (App.toAppWorkflow config)) {w w' : World}
    (h : Refreshes w w') (hw : AllSessions P w) : AllSessions P w' := by
  intro id session hsession
  rcases h.sessions id with hsame | ⟨config, -, hnew⟩
  · exact hw id session (hsame.symm.trans hsession)
  · obtain rfl := Option.some.inj (hnew.symm.trans hsession)
    exact hmade config

theorem AllSessions.assign {w w' : World} {id : WorkflowId} {session : App.WorkflowConfig}
    (hsession : P session) (h : w'.sessions = w.sessions.assign id session) (hw : AllSessions P w) :
    AllSessions P w' := by
  intro other found hfound
  rw [h, Dictionary.lookup_assign] at hfound
  split_ifs at hfound
  · exact Option.some.inj hfound ▸ hsession
  · exact hw other found hfound

theorem allSessions_step (hmade : ∀ config, P (App.toAppWorkflow config))
    (hoverride : ∀ request session, P session → P (App.applyOverrides request session)) {w : World}
    (hsound : RecordsSound w) (hw : AllSessions P w) (step : Step) :
    AllSessions P (step.next env w) := by
  have hrestart : ∀ (v : World) (bootId : String), AllSessions P (v.restart bootId) := by
    intro v bootId id session hsession
    exact absurd hsession (by simp [World.restart])
  cases step with
  | restart bootId => exact hrestart w bootId
  | crash r n bootId => exact hrestart _ bootId
  | request r =>
    cases hsubmission : r.submission w with
    | some submission =>
      rcases serve_submission env hsubmission with ⟨-, -, hsame, -⟩ | ⟨-, -, hsessions, -⟩
      · exact fun id session h => hw id session (hsame ▸ h)
      · split_ifs at hsessions
        · exact hw.assign (hmade submission.config) hsessions
        · exact fun id session h => hw id session (hsessions ▸ h)
    | none =>
      cases hreorchestration : r.reorchestration with
      | some reorchestration =>
        obtain ⟨v, hrefreshes, -, -, -, -, hsessions⟩ :=
          serve_reorchestration env hsound.keyed hreorchestration
        have hv : AllSessions P v := hw.refreshes hmade hrefreshes
        rcases hsessions with ⟨-, hsame⟩ | ⟨session, -, hfound, hnew⟩
        · exact fun id session h => hv id session (hsame ▸ h)
        · exact hv.assign (hoverride _ _ (hv _ _ hfound)) hnew
      | none =>
        exact hw.refreshes hmade (serve_other env hsound.keyed hsubmission hreorchestration).1

theorem allSessions_run (hmade : ∀ config, P (App.toAppWorkflow config))
    (hoverride : ∀ request session, P session → P (App.applyOverrides request session))
    (bootId : String) (clock : Nat → Int) (steps : List Step) :
    AllSessions P (runWorld env steps (.initial bootId clock)) := by
  have hrun : ∀ (steps : List Step) (w : World), RecordsSound w → AllSessions P w →
      AllSessions P (runWorld env steps w) := by
    intro steps
    induction steps with
    | nil => exact fun w _ hw => hw
    | cons step rest ih =>
      intro w hsound hw
      exact ih _ (step_recordsSound hsound) (allSessions_step hmade hoverride hsound hw step)
  apply hrun steps _ (initial_recordsSound bootId clock)
  intro id session hsession
  exact absurd hsession (by simp [World.initial])

end Sessions

inductive Entered : Int → App.TaskConfig → Prop
  | submitted (task : TaskConfig) : Entered task.priority (App.toAppTask task)
  | overridden {value : Int} {override : TaskStateOverride} (task : App.TaskConfig)
      (h : override.priority = some value) : Entered value (App.overrideTask override task)
  | kept {value : Int} {override : TaskStateOverride} {task : App.TaskConfig}
    (h : override.priority = none) :
      Entered value task → Entered value (App.overrideTask override task)
  | completed {value : Int} {task : App.TaskConfig} (taskId : TaskId) :
      Entered value task → Entered value (App.dropDependency taskId task)

theorem Entered.priority_eq {value : Int} {task : App.TaskConfig} (h : Entered value task) :
    task.priority = App.toPriority value := by
  induction h with
  | submitted task => rfl
  | overridden task h => simp [App.overrideTask, h]
  | kept h _ ih => simpa [App.overrideTask, h] using ih
  | completed taskId _ ih => exact ih

def PrioritiesEntered (session : App.WorkflowConfig) : Prop :=
  ∀ task ∈ session.tasks, ∃ value, Entered value task

theorem prioritiesEntered_submitted (config : WorkflowConfig) :
    PrioritiesEntered (App.toAppWorkflow config) := by
  intro task htask
  obtain ⟨submitted, -, rfl⟩ := List.mem_map.mp htask
  exact ⟨submitted.priority, .submitted submitted⟩

theorem prioritiesEntered_overridden (request : ReorchestrateRequest) (session : App.WorkflowConfig)
    (h : PrioritiesEntered session) : PrioritiesEntered (App.applyOverrides request session) := by
  refine App.forall_tasks_applyOverrides ?_ ?_ h
  · rintro override task ⟨value, hvalue⟩
    cases hpriority : override.priority with
    | none => exact ⟨value, .kept hpriority hvalue⟩
    | some new => exact ⟨new, .overridden task hpriority⟩
  · rintro taskId task ⟨value, hvalue⟩
    exact ⟨value, .completed taskId hvalue⟩

def FitsInt32 (value : Int) : Prop := -2 ^ 31 ≤ value ∧ value < 2 ^ 31

/-- The optimizer has the values as they were entered, in their order, and can negate them. -/
structure PrioritiesKept (p q : Int) (lower higher : Optimizer.OptimizerTask) : Prop where
  ordered : lower.priority < higher.priority
  low : lower.priority = p
  high : higher.priority = q
  negated : FitsInt32 (-lower.priority) ∧ FitsInt32 (-higher.priority)

theorem toPriority_eq_self_iff (value : Int) : App.toPriority value = value ↔ FitsInt32 value := by
  constructor
  · intro h
    have hfrom : -(2 ^ 32 / 2) ≤ Int.bmod value (2 ^ 32) := Int.le_bmod (by decide)
    have hto : Int.bmod value (2 ^ 32) < (2 ^ 32 + 1) / 2 := Int.bmod_lt (by decide)
    have hsame : Int.bmod value (2 ^ 32) = value := h
    unfold FitsInt32
    omega
  · exact fun ⟨hfrom, hto⟩ => App.toPriority_eq_self hfrom hto

theorem prioritiesKept_iff {p q : Int} (hlt : p < q) {lower higher : App.TaskConfig}
    (hlower : Entered p lower) (hhigher : Entered q higher) :
    PrioritiesKept p q (App.toOptimizerTask lower) (App.toOptimizerTask higher) ↔
      -2 ^ 31 < p ∧ q < 2 ^ 31 := by
  have hp : (App.toOptimizerTask lower).priority = App.toPriority p := hlower.priority_eq
  have hq : (App.toOptimizerTask higher).priority = App.toPriority q := hhigher.priority_eq
  constructor
  · intro h
    obtain ⟨-, hto⟩ := (toPriority_eq_self_iff q).mp (hq.symm.trans h.high)
    have hnegated := h.negated.1.2
    rw [h.low] at hnegated
    exact ⟨by omega, hto⟩
  · rintro ⟨hfrom, hto⟩
    have hpself : App.toPriority p = p := (toPriority_eq_self_iff p).mpr ⟨by omega, by omega⟩
    have hqself : App.toPriority q = q := (toPriority_eq_self_iff q).mpr ⟨by omega, by omega⟩
    rw [hpself] at hp
    rw [hqself] at hq
    refine ⟨?_, hp, hq, ?_⟩
    · rw [hp, hq]
      exact hlt
    · rw [hp, hq]
      unfold FitsInt32
      omega

/-- In every session each priority is a value that was entered, and two of them reach the
optimizer as they were entered just when the lower one is above the least number of 32 bits and
the higher one has 32 bits. -/
theorem priorities_kept_iff (env : Environment) (bootId : String) (clock : Nat → Int)
    (steps : List Step) (id : WorkflowId) (session : App.WorkflowConfig)
    (hsession : (runWorld env steps (.initial bootId clock)).sessions.lookup id = some session) :
    PrioritiesEntered session ∧
      ∀ lower ∈ session.tasks, ∀ higher ∈ session.tasks, ∀ p q, Entered p lower →
      Entered q higher → p < q →
        (PrioritiesKept p q (App.toOptimizerTask lower) (App.toOptimizerTask higher) ↔
          -2 ^ 31 < p ∧ q < 2 ^ 31) := by
  constructor
  · exact allSessions_run prioritiesEntered_submitted prioritiesEntered_overridden bootId clock
      steps id session
      hsession
  · intro lower _ higher _ p q hlower hhigher hlt
    exact prioritiesKept_iff hlt hlower hhigher

/-- Two tasks of one workflow, the second one with another priority after its submission. -/
def priorityRun (first second : Int) : List Step :=
  [.request
    (.submit
      { config := { id := "w", tasks := [{ id := "a", priority := first }, { id := "b" }] } }),
      .request
      (.reorchestrate
        { workflowId := "w", taskOverrides := [{ taskId := "b", priority := some second }] })]

def prioritySession (first second : Int) : App.WorkflowConfig where
  id := "w"
  tasks := [{ id := "a", priority := first }, { id := "b", priority := second }]

theorem priorities_five_six_kept :
    PrioritiesKept 5 6 (App.toOptimizerTask { id := "a", priority := 5 })
      (App.toOptimizerTask { id := "b", priority := 6 }) := by
  have hsession : (runWorld openEnvironment (priorityRun 5 6) newDatabase).sessions.lookup "w" =
      some (prioritySession 5 6) := by decide
  obtain ⟨-, hkept⟩ := priorities_kept_iff openEnvironment "boot" (fun reading => reading)
    (priorityRun 5 6) "w" _ hsession
  have hfirst : Entered 5 { id := "a", priority := 5 } := .submitted { id := "a", priority := 5 }
  have hsecond : Entered 6 { id := "b", priority := 6 } :=
    @Entered.overridden 6 { taskId := "b", priority := some 6 } { id := "b" } rfl
  exact (hkept _ (by simp [prioritySession]) _ (by simp [prioritySession]) 5 6 hfirst hsecond
    (by decide)).mpr (by decide)

/-- The highest priority that is accepted last becomes the lowest. -/
theorem priorities_reversed :
    (runWorld openEnvironment (priorityRun 2147483647 2147483648) newDatabase).sessions.lookup "w" =
        some (prioritySession 2147483647 (-2147483648)) ∧
      Entered 2147483647 { id := "a", priority := 2147483647 } ∧
      Entered 2147483648 { id := "b", priority := -2147483648 } ∧
      ¬ PrioritiesKept 2147483647 2147483648
        (App.toOptimizerTask { id := "a", priority := 2147483647 })
        (App.toOptimizerTask { id := "b", priority := -2147483648 }) := by
  refine ⟨by decide, .submitted { id := "a", priority := 2147483647 }, ?_, fun h => ?_⟩
  · exact @Entered.overridden 2147483648 { taskId := "b", priority := some 2147483648 }
      { id := "b" } rfl
  · exact absurd h.ordered (by decide)

end TaskOrchestrator.System
