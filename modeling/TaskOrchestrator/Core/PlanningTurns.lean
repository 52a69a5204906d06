import TaskOrchestrator.Core.MutualExclusion

/-!
# The turns of a planning pass

A pass takes up one ready task after another. What a plan comes to is seen from the turns of its
tasks when it is broken for good as soon as a turn breaks it. An exclusion that one task declares is
broken by the turn of the other task, which looks at its own list only.
-/

namespace TaskOrchestrator.Core

open Library

set_option autoImplicit false

section Turns

variable (hash : IterationOrder) (registry : ActorRegistry) (state : WorkflowState) (now : Time)
variable (strategy : Option SchedulingStrategy) (profile : ActorRankingProfile)
variable (pendingTasks : List PendingTask)

/-- Every task that the rounds take up meets the condition in the state in which its turn comes. -/
def MeetsTurns (condition : PlanState → PendingTask → Prop) : Nat → Nat → PlanState → Prop
  | 0, _, _ => True
  | fuel + 1, round, s =>
    s.remainingTaskIds = [] ∨
      let readyTasks := collectReadyTasks hash strategy pendingTasks round s
      Meets (planTask registry state now profile)
          (fun progressing task => condition progressing.1 task) (s, false) readyTasks ∧
        ((readyTasks.foldl (planTask registry state now profile) (s, false)).2 = true →
          MeetsTurns condition fuel (round + 1)
            (readyTasks.foldl (planTask registry state now profile) (s, false)).1)

instance MeetsTurns.decidable {condition : PlanState → PendingTask → Prop}
    [∀ s task, Decidable (condition s task)] :
    (fuel round : Nat) → (s : PlanState) →
      Decidable
      (MeetsTurns hash registry state now strategy profile pendingTasks condition fuel round s)
  | 0, _, _ => isTrue trivial
  | fuel + 1, round, s =>
    haveI : Decidable
      (MeetsTurns hash registry state now strategy profile pendingTasks condition fuel (round + 1)
        ((collectReadyTasks hash strategy pendingTasks round s).foldl
          (planTask registry state now profile)
          (s, false)).1) := MeetsTurns.decidable fuel (round + 1) _
    inferInstanceAs (Decidable (_ ∨ _ ∧ (_ → _)))

end Turns

/-- A property of the tables of a pass that is lost for good at the first turn that does not meet
the condition. -/
structure SettledByTurns (workflow : Workflow) (registry : ActorRegistry) (state : WorkflowState)
    (now : Time) (profile : ActorRankingProfile) (condition : PlanState → PendingTask → Prop)
    (Inv P : PlanState → Prop) : Prop where
  sound : ∀ s, Inv s → P s
  keeps : ∀ s, ∀ task ∈ collectPendingTasks workflow state, ∀ progress, Inv s → condition s task →
    Inv (planTask registry state now profile (s, progress) task).1
  breaks : ∀ s, ∀ task ∈ collectPendingTasks workflow state, ∀ progress, Inv s → ¬condition s task →
    ¬P (planTask registry state now profile (s, progress) task).1
  lost : KeptByPlanning workflow registry state now profile fun s => ¬P s

namespace SettledByTurns

variable {hash : IterationOrder} {workflow : Workflow} {registry : ActorRegistry}
variable {state : WorkflowState} {now : Time}
variable {strategy : Option SchedulingStrategy} {profile : ActorRankingProfile}
variable {condition : PlanState → PendingTask → Prop} {Inv P : PlanState → Prop}

theorem round (h : SettledByTurns workflow registry state now profile condition Inv P)
    {readyTasks : List PendingTask}
    (hready : ∀ task ∈ readyTasks, task ∈ collectPendingTasks workflow state) {s : PlanState}
    (hs : Inv s) (progress : Bool) :
    (Meets (planTask registry state now profile)
      (fun progressing task => condition progressing.1 task) (s, progress)
        readyTasks ∧ Inv (readyTasks.foldl (planTask registry state now profile) (s, progress)).1) ∨
      ¬Meets (planTask registry state now profile)
        (fun progressing task => condition progressing.1 task) (s, progress)
        readyTasks ∧ ¬P
        (readyTasks.foldl (planTask registry state now profile) (s, progress)).1 := by
  induction readyTasks generalizing s progress with
  | nil => exact Or.inl ⟨trivial, hs⟩
  | cons task rest ih =>
    have htask := hready task List.mem_cons_self
    have hrest := fun other hother => hready other (List.mem_cons_of_mem task hother)
    by_cases hcondition : condition s task
    · rcases ih hrest (h.keeps s task htask progress hs hcondition) _ with ⟨hmeets, hnext⟩
        | ⟨hmeets, hnext⟩
      · exact Or.inl ⟨⟨hcondition, hmeets⟩, hnext⟩
      · exact Or.inr ⟨fun hall => hmeets hall.2, hnext⟩
    · exact Or.inr ⟨fun hall => hcondition hall.1,
        h.lost.round hrest (h.breaks s task htask progress hs hcondition) _⟩

theorem rounds (h : SettledByTurns workflow registry state now profile condition Inv P)
    (fuel round : Nat) {s : PlanState} (hs : Inv s) :
    P (planRounds hash registry state now strategy profile
      (collectPendingTasks workflow state) fuel round s) ↔
      MeetsTurns hash registry state now strategy profile (collectPendingTasks workflow state)
        condition fuel round
        s := by
  induction fuel generalizing round s with
  | zero => exact iff_of_true (h.sound s hs) trivial
  | succ fuel ih =>
    have hready :
        ∀ task ∈ collectReadyTasks hash strategy (collectPendingTasks workflow state) round s,
        task ∈ collectPendingTasks workflow state :=
          fun task htask => mem_collectReadyTasks hash strategy htask
    rw [planRounds, MeetsTurns]
    dsimp only
    split_ifs with hdone hnone hprogress
    · exact iff_of_true (h.sound s hs) (Or.inl hdone)
    · rw [List.isEmpty_iff.mp hnone]
      exact iff_of_true (h.sound s hs)
        (Or.inr ⟨trivial, fun hfalse => absurd hfalse Bool.false_ne_true⟩)
    · rw [or_iff_right hdone]
      rcases h.round hready hs false with ⟨hmeets, hnext⟩ | ⟨hmeets, hnext⟩
      · rw [and_iff_right hmeets, imp_iff_right hprogress]
        exact ih _ hnext
      · exact iff_of_false (h.lost.rounds hash strategy fuel _ hnext) fun hall => hmeets hall.1
    · rw [or_iff_right hdone]
      rcases h.round hready hs false with ⟨hmeets, hnext⟩ | ⟨hmeets, hnext⟩
      · exact iff_of_true (h.sound _ hnext) ⟨hmeets, fun htrue => absurd htrue hprogress⟩
      · exact iff_of_false hnext fun hall => hmeets hall.1

end SettledByTurns

section Exclusion

variable (hash : IterationOrder) (workflow : Workflow) (state : WorkflowState)
variable (registry : ActorRegistry) (now : Time)
variable (strategy : Option SchedulingStrategy) (rankingProfile : Option ActorRankingProfile)
variable (a b : TaskId)

/-- The plan does not have both tasks, and none of them while the other is completed or in flight. -/
def PlanKeepsApart : Prop :=
  let assigned :=
    fun id => ∃ x ∈ (plan hash workflow state registry now strategy rankingProfile).assignments,
    x.taskId = id
  ¬(assigned a ∧ assigned b) ∧ ¬(assigned a ∧ IsTaken state b) ∧ ¬(assigned b ∧ IsTaken state a)

/-- If it is the turn of `b` and `a` is completed, in flight or planned, then `b` lists a task that
is, or no actor can take it. -/
def BarredBy (profile : ActorRankingProfile) (s : PlanState) (task : PendingTask) : Prop :=
  task.info.id = b → b ∈ s.remainingTaskIds → a ∈ s.blockedTaskIds →
    mutexConflict task s.blockedTaskIds = true ∨
      selectBestCandidate registry state now profile task s.reservations s.completionTimes = none

instance (profile : ActorRankingProfile) (s : PlanState) (task : PendingTask) :
    Decidable (BarredBy state registry now a b profile s task) :=
  inferInstanceAs (Decidable (_ → _ → _ → _ ∨ _))

/-- At no turn of the pass is `b` placed where `a` is completed, in flight or planned. -/
def BarredThroughout : Prop :=
  validateSupportedTasks (collectPendingTasks workflow state) = none →
    let initial := initialPlanState workflow state registry now (collectPendingTasks workflow state)
    MeetsTurns hash registry state now strategy (effectiveRankingProfile rankingProfile)
      (collectPendingTasks workflow state)
      (BarredBy state registry now a b (effectiveRankingProfile rankingProfile))
      initial.remainingTaskIds.length 0 initial

instance :
    Decidable (BarredThroughout hash workflow state registry now strategy rankingProfile a b) :=
  inferInstanceAs (Decidable (_ → _))

variable {hash workflow state registry now strategy rankingProfile a b}

/-- `b` is planned and `a` is completed, in flight or planned. -/
def PairPlanned (state : WorkflowState) (a b : TaskId) (s : PlanState) : Prop :=
  (∃ x ∈ s.assignments, x.taskId = b) ∧ (IsTaken state a ∨ ∃ x ∈ s.assignments, x.taskId = a)

theorem pairPlanned_lost (profile : ActorRankingProfile) :
    KeptByPlanning workflow registry state now profile fun s => ¬¬PairPlanned state a b s where
  giveUp := fun _ _ hs => hs
  place := by
    intro s task selection hs _ _ _ _
    obtain ⟨⟨x, hx, hxId⟩, hother⟩ := not_not.mp hs
    refine not_not.mpr ⟨⟨x, List.mem_append_left _ hx, hxId⟩, hother.imp_right ?_⟩
    rintro ⟨y, hy, hyId⟩
    exact ⟨y, List.mem_append_left _ hy, hyId⟩

theorem pairPlanned_place {s : PlanState} {task : PendingTask} {selection : CandidateSelection} :
    PairPlanned state a b (s.place task selection) ↔
      ((∃ x ∈ s.assignments, x.taskId = b) ∨ task.info.id = b) ∧
        (IsTaken state a ∨ (∃ x ∈ s.assignments, x.taskId = a) ∨ task.info.id = a) := by
  simp only [PairPlanned, PlanState.place, assignmentOf, List.mem_append, List.mem_singleton,
    or_and_right, exists_or, exists_eq_left]

/-- The pair is kept apart until the turn of the task that does not list the other. -/
theorem settledByTurns_pair (hne : a ≠ b) (hlists : b ∈ excludedBy workflow a)
    (profile : ActorRankingProfile) :
    SettledByTurns workflow registry state now profile (BarredBy state registry now a b profile)
      (fun s => ExclusionInvariant workflow state s ∧ ¬PairPlanned state a b s) fun s =>
        ¬PairPlanned state a b s where
  sound := fun _ hs => hs.2
  lost := pairPlanned_lost profile
  keeps := by
    rintro s task htask progress ⟨hs, hapart⟩ hbarred
    refine ⟨ExclusionInvariant.kept.planTask hs htask progress, ?_⟩
    unfold planTask
    dsimp only
    split_ifs with hremaining hconflict
    · exact hapart
    · cases hselection : selectBestCandidate registry state now profile task s.reservations
        s.completionTimes with
      | none => exact hapart
      | some selection =>
        rw [pairPlanned_place]
        rintro ⟨hb, ha⟩
        rcases hb with hb | rfl
        · rcases ha with htaken | ha | rfl
          · exact hapart ⟨hb, Or.inl htaken⟩
          · exact hapart ⟨hb, Or.inr ha⟩
          · -- The first task comes second, and its list is looked at.
            exact not_mutexConflict (mem_collectPendingTasks htask).1
              (Bool.eq_false_iff.mpr hconflict) b
              ((hs.blocked b).mpr (Or.inr hb)) hlists
        · have hblocked : a ∈ s.blockedTaskIds := by
            rcases ha with htaken | ha | hid
            · exact (hs.blocked a).mpr (Or.inl htaken)
            · exact (hs.blocked a).mpr (Or.inr ha)
            · exact absurd hid.symm hne
          rcases hbarred rfl hremaining hblocked with hconflicts | hnone
          · exact hconflict hconflicts
          · exact absurd (hselection.symm.trans hnone) (by simp)
    · exact hapart
  breaks := by
    rintro s task htask progress ⟨hs, -⟩ hplaced
    simp only [BarredBy, Classical.not_imp, not_or] at hplaced
    obtain ⟨rfl, hremaining, hblocked, hconflict, hnone⟩ := hplaced
    obtain ⟨selection, hselection⟩ := Option.ne_none_iff_exists'.mp hnone
    have hplace : planTask registry state now profile (s, progress) task =
        (s.place task selection, true) := by
      rw [planTask, if_neg (not_not.mpr hremaining), if_neg hconflict, hselection]
    rw [hplace, not_not, pairPlanned_place]
    refine ⟨Or.inr rfl, ?_⟩
    rcases (hs.blocked a).mp hblocked with htaken | ha
    · exact Or.inl htaken
    · exact Or.inr (Or.inl ha)

/-- An exclusion that `a` declares is kept by exactly the plans in which `b` does not get a place at
a turn at which `a` has one or is taken. -/
theorem planKeepsApart_iff (hne : a ≠ b) (hlists : b ∈ excludedBy workflow a) :
    PlanKeepsApart hash workflow state registry now strategy rankingProfile a b ↔
      BarredThroughout hash workflow state registry now strategy rankingProfile a b := by
  have hfirst : ∀ x ∈ (plan hash workflow state registry now strategy rankingProfile).assignments,
      x.taskId = a → ¬IsTaken state b := by
    rintro x hx rfl htaken
    exact plan_lists_none_taken hx htaken hlists
  have hinitial : ¬PairPlanned state a b
      (initialPlanState workflow state registry now (collectPendingTasks workflow state)) := by
    simp [PairPlanned, initialPlanState]
  have hapart : PlanKeepsApart hash workflow state registry now strategy rankingProfile a b ↔
      ¬((∃ x ∈ (plan hash workflow state registry now strategy rankingProfile).assignments,
        x.taskId = b) ∧ (IsTaken state a ∨
          ∃ x ∈ (plan hash workflow state registry now strategy rankingProfile).assignments,
            x.taskId = a)) := by
    constructor
    · rintro ⟨hboth, -, htaken⟩ ⟨hb, hstate | ha⟩
      · exact htaken ⟨hb, hstate⟩
      · exact hboth ⟨ha, hb⟩
    · intro hnot
      refine ⟨fun h => hnot ⟨h.2, Or.inr h.1⟩, ?_, fun h => hnot ⟨h.1, Or.inl h.2⟩⟩
      rintro ⟨⟨x, hx, hid⟩, htaken⟩
      exact hfirst x hx hid htaken
  rw [hapart, BarredThroughout, plan]
  dsimp only
  split_ifs with hpending
  · have hnone : collectPendingTasks workflow state = [] := List.isEmpty_iff.mp hpending
    refine iff_of_true (by simp) fun _ => ?_
    rw [hnone]
    trivial
  · cases hvalid : validateSupportedTasks (collectPendingTasks workflow state) with
    | some validationError => exact iff_of_true (by simp) fun hnone => absurd hnone (by simp)
    | none =>
      rw [imp_iff_right rfl,
        ← (settledByTurns_pair hne hlists (effectiveRankingProfile rankingProfile)).rounds _ 0
        ⟨.initial, hinitial⟩]
      simp only [(perm_sortBy _ _).mem_iff]
      rfl

end Exclusion

end TaskOrchestrator.Core
