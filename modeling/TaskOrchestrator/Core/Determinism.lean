import TaskOrchestrator.Core.EarliestStart
import TaskOrchestrator.Core.Simulation
import Mathlib.Data.String.Basic
import Mathlib.Order.WithBot

/-!
# Plans and the order of hash containers

Two passes over one workflow in which hash containers are iterated in different orders and sorts
arrange equivalent elements differently. The passes agree when the comparator of the strategy tells
apart what is ready in one round.
-/

namespace TaskOrchestrator.Core

open Library

set_option autoImplicit false

/-- In permuted lists in which at most one element satisfies the test, the same one is found. -/
theorem find?_eq_of_perm {α : Type} {p : α → Bool} {xs ys : List α} (h : xs.Perm ys)
    (hunique : ∀ a ∈ xs, ∀ b ∈ xs, p a = true → p b = true → a = b) : xs.find? p = ys.find? p := by
  cases hys : ys.find? p with
  | none =>
    rw [List.find?_eq_none] at hys ⊢
    exact fun a ha => hys a (h.mem_iff.mp ha)
  | some b =>
    have hb : b ∈ xs := h.mem_iff.mpr (List.mem_of_find?_eq_some hys)
    have hsome : (xs.find? p).isSome := List.find?_isSome.mpr ⟨b, hb, List.find?_some hys⟩
    obtain ⟨a, ha⟩ := Option.isSome_iff_exists.mp hsome
    rw [ha, hunique a (List.mem_of_find?_eq_some ha) b hb (List.find?_some ha)
      (List.find?_some hys)]

theorem get?_eq_of_perm {ρ κ : Type} [DecidableEq κ] {key : ρ → κ} {t u : KeyedRows key}
    (h : t.rows.Perm u.rows) (k : κ) : t.get? k = u.get? k := by
  apply Option.ext
  intro r
  rw [KeyedRows.get?_eq_some_iff, KeyedRows.get?_eq_some_iff, h.mem_iff]

/-- The elements of a list without duplicates stand in the order of their indices. -/
theorem pairwise_idxOf {ids : List TaskId} (h : ids.Nodup) :
    ids.Pairwise fun x y => ids.idxOf x ≤ ids.idxOf y := by
  rw [List.pairwise_iff_getElem]
  intro i j hi hj hij
  rw [h.idxOf_getElem i hi, h.idxOf_getElem j hj]
  exact le_of_lt hij

theorem map_id_orderReadyTasks (strategy : Option SchedulingStrategy)
    {readyTasks : List PendingTask} (hnodup : (readyTasks.map fun task => task.info.id).Nodup) :
    (orderReadyTasks strategy readyTasks).map (fun task => task.info.id) =
      (applyStrategy strategy (readyTasks.map PendingTask.info)).map TaskInfo.id := by
  have hstrategy : ((applyStrategy strategy (readyTasks.map PendingTask.info)).map TaskInfo.id).Perm
      (readyTasks.map fun task => task.info.id) := by
    have hperm :=
      ((strategy.getD edfStrategy).perm (readyTasks.map PendingTask.info)).map TaskInfo.id
    rwa [List.map_map] at hperm
  unfold orderReadyTasks
  dsimp only
  generalize applyStrategy strategy (readyTasks.map PendingTask.info) = ordered at hstrategy ⊢
  have hposition : ∀ task : PendingTask,
      (ordered.findIdx fun info => decide (info.id = task.info.id)) =
      (ordered.map TaskInfo.id).idxOf task.info.id := by
    intro task
    rw [List.idxOf, List.findIdx_map]
    rfl
  simp only [hposition]
  generalize ordered.map TaskInfo.id = ids at hstrategy ⊢
  have hless : (fun lhs rhs : PendingTask => decide (ids.idxOf lhs.info.id < ids.idxOf rhs.info.id ∨
      ids.idxOf lhs.info.id = ids.idxOf rhs.info.id ∧ lhs.info.id < rhs.info.id)) =
        byKeyThen (fun task => ids.idxOf task.info.id) (byKey fun task => task.info.id) := by
    funext lhs rhs
    rw [Bool.eq_iff_iff, decide_eq_true_iff, byKeyThen_eq_true, byKey, decide_eq_true_iff]
  rw [hless]
  have hsorted :=
    pairwise_sortBy ((strictWeak_byKey fun task : PendingTask => task.info.id).byKeyThen
      fun task => ids.idxOf task.info.id) readyTasks
  refine List.Perm.eq_of_pairwise ?_ (List.pairwise_map.mpr (hsorted.imp ?_))
    (pairwise_idxOf (hstrategy.nodup_iff.mpr hnodup))
    (((perm_sortBy _ _).map _).trans hstrategy.symm)
  · intro x y _ hy hxy hyx
    exact ((List.idxOf_inj hy).mp (le_antisymm hyx hxy)).symm
  · intro lhs rhs hnot
    rcases byKeyThen_eq_false.mp hnot with hlt | ⟨heq, -⟩
    · exact le_of_lt hlt
    · exact le_of_eq heq

theorem priorityOnlyLess_eq :
    priorityOnlyLess = byKeyThen (fun a => OrderDual.toDual a.priority) (byKey TaskInfo.id) := rfl

theorem sjfLess_eq : sjfLess = byKeyThen TaskInfo.duration priorityOnlyLess := rfl

theorem fifoLess_eq : fifoLess = byKeyThen TaskInfo.phaseId (byKey TaskInfo.id) := rfl

def deadlineKey (a : TaskInfo) : WithTop Int := a.deadline

theorem edfLess_eq :
    edfLess = byKeyThen (fun a => OrderDual.toDual a.priority) (byKey deadlineKey) := by
  funext a b
  by_cases hpriority : a.priority = b.priority
  · rw [edfLess, if_neg (not_not.mpr hpriority), byKeyThen,
      if_neg (not_not.mpr (congrArg OrderDual.toDual hpriority)), byKey, deadlineKey, deadlineKey]
    cases a.deadline with
    | none =>
      cases b.deadline with
      | none => exact (decide_eq_false (not_top_lt : ¬ (⊤ : WithTop Int) < ⊤)).symm
      | some e => exact (decide_eq_false (not_top_lt : ¬ (⊤ : WithTop Int) < e)).symm
    | some d =>
      cases b.deadline with
      | none => exact (decide_eq_true (WithTop.coe_lt_top d)).symm
      | some e => exact decide_eq_decide.mpr WithTop.coe_lt_coe.symm
  · have hdual : OrderDual.toDual a.priority ≠ OrderDual.toDual b.priority := hpriority
    rw [edfLess, if_pos hpriority, byKeyThen, if_pos hdual]
    rfl

theorem ShippedStrategy.strictWeak (strategy : ShippedStrategy) : StrictWeak strategy.less := by
  have hpriority : StrictWeak priorityOnlyLess := by
    rw [priorityOnlyLess_eq]
    exact (strictWeak_byKey TaskInfo.id).byKeyThen _
  unfold ShippedStrategy.less
  cases strategy with
  | edf =>
    rw [edfLess_eq]
    exact (strictWeak_byKey deadlineKey).byKeyThen _
  | sjf =>
    rw [sjfLess_eq]
    exact hpriority.byKeyThen _
  | priorityOnly => exact hpriority
  | fifo =>
    rw [fifoLess_eq]
    exact (strictWeak_byKey TaskInfo.id).byKeyThen _

theorem edfLess_tied {a b : TaskInfo} (h : Tied edfLess a b) :
    a.priority = b.priority ∧ a.deadline = b.deadline := by
  rw [edfLess_eq] at h
  obtain ⟨hpriority, hrest⟩ := h.of_byKeyThen
  exact ⟨OrderDual.toDual.injective hpriority, hrest.key_eq⟩

theorem priorityOnlyLess_tied {a b : TaskInfo} (h : Tied priorityOnlyLess a b) : a.id = b.id := by
  rw [priorityOnlyLess_eq] at h
  exact h.of_byKeyThen.2.key_eq

theorem sjfLess_tied {a b : TaskInfo} (h : Tied sjfLess a b) : a.id = b.id := by
  rw [sjfLess_eq] at h
  exact priorityOnlyLess_tied h.of_byKeyThen.2

theorem fifoLess_tied {a b : TaskInfo} (h : Tied fifoLess a b) : a.id = b.id := by
  rw [fifoLess_eq] at h
  exact h.of_byKeyThen.2.key_eq

def Workflow.Resolves (workflow : Workflow) : Prop :=
  ∀ taskId, workflow.process taskId = none → ∀ p ∈ workflow.processes.rows,
    ∀ q ∈ workflow.processes.rows, taskId ∈ p.subProcessIds → taskId ∈ q.subProcessIds → p = q

structure Workflow.SameRows (workflow workflow' : Workflow) : Prop where
  phases : workflow.phases.rows.Perm workflow'.phases.rows
  processes : workflow.processes.rows.Perm workflow'.processes.rows

/-- One actor, whose windows of one start are arranged in two ways: the sort by start keeps the
order in which it is given them. -/
structure SameActor (actor actor' : Actor) : Prop where
  fields : actor' = { actor with availabilityWindows := actor'.availabilityWindows }
  windows : actor.availabilityWindows.Perm actor'.availabilityWindows

structure ActorRegistry.SameActors (registry registry' : ActorRegistry) : Prop where
  ids : (registry.actors.rows.map Actor.id).Perm (registry'.actors.rows.map Actor.id)
  actors : ∀ id, Option.Rel SameActor (registry.get id) (registry'.get id)

/-- The strategy sorts by the comparator. What the comparator calls equivalent stands anyhow. -/
def SchedulingStrategy.SortsBy (strategy : SchedulingStrategy)
    (less : TaskInfo → TaskInfo → Bool) : Prop :=
  ∀ tasks, (strategy.orderTasks tasks).Pairwise fun a b => less b a = false

/-- The sort that keeps the order of equivalent tasks. -/
def ShippedStrategy.stable (strategy : ShippedStrategy) : SchedulingStrategy :=
  ⟨sortBy strategy.less, perm_sortBy strategy.less⟩

theorem ShippedStrategy.sortsBy_stable (strategy : ShippedStrategy) :
    strategy.stable.SortsBy strategy.less :=
  pairwise_sortBy strategy.strictWeak

/-- The states before the rounds of a pass: the one that it starts with, and the one after each
round in which a task was placed. -/
inductive BeforeRound (hash : IterationOrder) (registry : ActorRegistry) (state : WorkflowState)
    (now : Time) (strategy : Option SchedulingStrategy) (profile : ActorRankingProfile)
    (pendingTasks : List PendingTask) (initial : PlanState) : Nat → PlanState → Prop where
  | first : BeforeRound hash registry state now strategy profile pendingTasks initial 0 initial
  | next {round : Nat} {s : PlanState} :
      BeforeRound hash registry state now strategy profile pendingTasks initial round s →
        ((collectReadyTasks hash strategy pendingTasks round s).foldl
          (planTask registry state now profile)
          (s, false)).2 = true →
          BeforeRound hash registry state now strategy profile pendingTasks initial (round + 1)
            ((collectReadyTasks hash strategy pendingTasks round s).foldl
              (planTask registry state now profile) (s, false)).1

/-- The strategy tells apart what is ready. By duration or priority and then by id it always does.
By deadline it does not when priority and deadline are the same, and by phase not when a task is
found in several ready phases that place it differently. -/
def TellsApart (pendingTasks readyTasks : List PendingTask) : ShippedStrategy → Prop
  | .edf => ∀ a ∈ readyTasks, ∀ b ∈ readyTasks, a.info.id ≠ b.info.id →
      a.info.priority ≠ b.info.priority ∨ a.info.deadline ≠ b.info.deadline
  | .fifo => ∀ first ∈ readyTasks, ∀ second ∈ readyTasks, first.info.id ≠ second.info.id →
      ∀ a ∈ pendingTasks, ∀ a' ∈ pendingTasks, ∀ b ∈ pendingTasks, ∀ b' ∈ pendingTasks,
        a.info.id = first.info.id → a'.info.id = first.info.id → b.info.id = second.info.id →
          b'.info.id = second.info.id → fifoLess a.info b.info = fifoLess a'.info b'.info
  | .sjf => True
  | .priorityOnly => True

def ToldApart (workflow : Workflow) (state : WorkflowState) (registry : ActorRegistry) (now : Time)
    (rankingProfile : Option ActorRankingProfile) (strategy : ShippedStrategy) : Prop :=
  ∀ round s, BeforeRound insertionOrder registry state now (some strategy.stable)
    (effectiveRankingProfile rankingProfile)
      (collectPendingTasks workflow state)
      (initialPlanState workflow state registry now (collectPendingTasks workflow state)) round s →
    TellsApart (collectPendingTasks workflow state)
      (collectReadyTasks insertionOrder (some strategy.stable)
        (collectPendingTasks workflow state) round s) strategy

section Start

variable {workflow workflow' : Workflow} {registry registry' : ActorRegistry}
variable {state : WorkflowState} {now : Time}

theorem processForTask_eq (hrows : workflow.SameRows workflow') (hresolves : workflow.Resolves) :
    workflow.processForTask = workflow'.processForTask := by
  funext taskId
  have hprocess : workflow.process taskId = workflow'.process taskId :=
    get?_eq_of_perm hrows.processes taskId
  unfold Workflow.processForTask
  rw [← hprocess]
  cases hown : workflow.process taskId with
  | some own => rfl
  | none =>
    apply find?_eq_of_perm hrows.processes
    intro p hp q hq hpTask hqTask
    exact hresolves taskId hown p hp q hq (of_decide_eq_true hpTask) (of_decide_eq_true hqTask)

theorem collectPendingTasks_perm (hrows : workflow.SameRows workflow')
    (hresolves : workflow.Resolves) :
    (collectPendingTasks workflow state).Perm (collectPendingTasks workflow' state) := by
  have hphase : ∀ id, workflow.phase id = workflow'.phase id := get?_eq_of_perm hrows.phases
  have hprocess : ∀ id, workflow.process id = workflow'.process id :=
    get?_eq_of_perm hrows.processes
  have htasks : ∀ id, workflow.taskIdsForPhase id = workflow'.taskIdsForPhase id := by
    intro id
    unfold Workflow.taskIdsForPhase
    simp only [hphase, hprocess]
  have hpending : ∀ phaseId taskId, pendingTask workflow phaseId taskId =
      pendingTask workflow' phaseId taskId := by
    intro phaseId taskId
    unfold pendingTask
    rw [processForTask_eq hrows hresolves]
  unfold collectPendingTasks
  simp only [htasks, funext (hpending _)]
  exact List.Perm.flatMap_right _ ((hrows.phases.filter _).map _)

theorem actorIds_eq (h : registry.SameActors registry') :
    registry.actorIds = registry'.actorIds := by
  have hsorted : ∀ ids : List ActorId, (sortBy (fun x y => decide (x < y)) ids).Pairwise fun x y =>
      x ≤ y :=
    fun ids => (pairwise_sortBy (strictWeak_byKey fun id : ActorId => id) ids).imp byKey_eq_false.mp
  refine List.Perm.eq_of_pairwise (fun x y _ _ => le_antisymm) (hsorted _) (hsorted _) ?_
  exact (perm_sortBy _ _).trans (h.ids.trans (perm_sortBy _ _).symm)

theorem FitsAt.of_same {actor actor' : Actor} (h : SameActor actor actor')
    {reservations : List ScheduledInterval} {releaseTime start : Time} {duration : Duration}
    {demand : Int} :
    FitsAt actor reservations releaseTime duration demand start ↔
      FitsAt actor' reservations releaseTime duration demand start := by
  have hcapacity : actor'.capacity = actor.capacity := by rw [h.fields]
  constructor
  · intro hfits
    refine ⟨hfits.released, fun hduration => ?_, by rw [hcapacity]; exact hfits.capacity⟩
    obtain ⟨window, hwindow, hinside⟩ := hfits.window hduration
    exact ⟨window, h.windows.mem_iff.mp hwindow, hinside⟩
  · intro hfits
    refine ⟨hfits.released, fun hduration => ?_, by rw [← hcapacity]; exact hfits.capacity⟩
    obtain ⟨window, hwindow, hinside⟩ := hfits.window hduration
    exact ⟨window, h.windows.mem_iff.mpr hwindow, hinside⟩

/-- The earliest start is the least one, so the arrangement of the windows does not matter. -/
theorem earliestStart_same {actor actor' : Actor} (h : SameActor actor actor')
    (reservations : List ScheduledInterval) (releaseTime : Time) (duration : Duration)
    (demand : Int) :
    earliestStart actor reservations releaseTime duration demand =
      earliestStart actor' reservations releaseTime duration demand := by
  cases hfirst : earliestStart actor reservations releaseTime duration demand with
  | some first =>
    obtain ⟨other, hother, hle⟩ :=
      ((FitsAt.of_same h).mp (earliestStart_fits hfirst)).earliestStart_le
    obtain ⟨again, hagain, hge⟩ :=
      ((FitsAt.of_same h).mpr (earliestStart_fits hother)).earliestStart_le
    obtain rfl := Option.some.inj (hfirst.symm.trans hagain)
    rw [hother, le_antisymm hge hle]
  | none =>
    cases hother : earliestStart actor' reservations releaseTime duration demand with
    | none => rfl
    | some other =>
      obtain ⟨again, hagain, -⟩ :=
        ((FitsAt.of_same h).mpr (earliestStart_fits hother)).earliestStart_le
      rw [hfirst] at hagain
      exact absurd hagain (by simp)

theorem ActorRegistry.SameActors.get (h : registry.SameActors registry') (id : ActorId) :
    registry.get id = none ∧ registry'.get id = none ∨
      ∃ actor actor', registry.get id = some actor ∧ registry'.get id = some actor' ∧
      SameActor actor actor' := by
  have hrel := h.actors id
  revert hrel
  cases registry.get id with
  | none =>
    cases registry'.get id with
    | none => exact fun _ => Or.inl ⟨rfl, rfl⟩
    | some actor' => exact fun hrel => nomatch hrel
  | some actor =>
    cases registry'.get id with
    | none => exact fun hrel => nomatch hrel
    | some actor' =>
      rintro ⟨hsame⟩
      exact Or.inr ⟨actor, actor', rfl, rfl, hsame⟩

theorem sameCandidates_of_same (h : registry.SameActors registry') :
    SameCandidates registry state registry' state where
  actorIds := actorIds_eq h
  release _ := rfl
  candidate task reservations earliestRelease actorId := by
    unfold actorCandidate
    rcases h.get actorId with ⟨hnone, hnone'⟩ | ⟨actor, actor', hactor, hactor', hsame⟩
    · rw [hnone, hnone']
    · have hstart := fun reservations releaseTime duration demand =>
        (earliestStart_same hsame reservations releaseTime duration demand).symm
      rw [hactor, hactor']
      obtain ⟨hfields, -⟩ := hsame
      generalize actor'.availabilityWindows = windows at hfields
      subst hfields
      simp only [Option.bind_eq_bind, Option.bind_some, hstart]
      rfl

theorem initializeActorReservations_same (h : registry.SameActors registry')
    (hprocess : workflow.processForTask = workflow'.processForTask) :
    initializeActorReservations workflow registry state now =
      initializeActorReservations workflow' registry' state now := by
  have hassigned : reserveAssigned workflow state now = reserveAssigned workflow' state now := by
    funext reservations taskId
    rw [reserveAssigned, reserveAssigned, assignedInterval, assignedInterval, hprocess]
  have hload : reserveOpaque registry state now = reserveOpaque registry' state now := by
    funext reservations actorId
    have hbaseline : baselineLoad registry state actorId =
        baselineLoad registry' state actorId := by
      unfold baselineLoad
      rcases h.get actorId with ⟨hnone, hnone'⟩ | ⟨actor, actor', hactor, hactor', hsame⟩
      · rw [hnone, hnone']
      · rw [hactor, hactor', hsame.fields]
        rfl
    rw [reserveOpaque, reserveOpaque, hbaseline]
  simp only [initializeActorReservations, actorIds_eq h, hassigned, hload]

theorem initialPlanState_matches (state : WorkflowState) (now : Time)
    (hrows : workflow.SameRows workflow') (hresolves : workflow.Resolves)
    (h : registry.SameActors registry') :
    (initialPlanState workflow state registry now (collectPendingTasks workflow state)).Matches
      (initialPlanState workflow' state registry' now (collectPendingTasks workflow' state)) where
  remaining := ((collectPendingTasks_perm hrows hresolves).map _).dedup
  reservations := initializeActorReservations_same h (processForTask_eq hrows hresolves)
  completionTimes id := by
    simp only [initialPlanState, initializeCompletionTimes, plannedTime,
      processForTask_eq hrows hresolves]
  blocked _ := Iff.rfl
  assignments := rfl
  ranking := rfl

end Start

section Order

variable {workflow : Workflow} {state : WorkflowState}

theorem forgetPhase_of_pending {task : PendingTask}
    (htask : task ∈ collectPendingTasks workflow state) :
    task.forgetPhase = pendingTask workflow "" task.info.id := by
  obtain ⟨phaseId, -, htask⟩ := List.mem_flatMap.mp htask
  obtain ⟨taskId, -, rfl⟩ := List.mem_map.mp htask
  rfl

theorem nodup_foldl_erase {ids : List TaskId} (hnodup : ids.Nodup) (tasks : List PendingTask) :
    (tasks.foldl (fun ids task => ids.erase task.info.id) ids).Nodup := by
  induction tasks generalizing ids with
  | nil => exact hnodup
  | cons task rest ih => exact ih (hnodup.erase _)

/-- Of two ready tasks one is less than the other, whichever entries are compared. -/
def Separates (pendingTasks readyTasks : List PendingTask)
    (less : TaskInfo → TaskInfo → Bool) : Prop :=
  ∀ first ∈ readyTasks, ∀ second ∈ readyTasks, first.info.id ≠ second.info.id →
    ∀ a ∈ pendingTasks, ∀ a' ∈ pendingTasks, ∀ b ∈ pendingTasks, ∀ b' ∈ pendingTasks,
      a.info.id = first.info.id → a'.info.id = first.info.id → b.info.id = second.info.id →
        b'.info.id = second.info.id → less a.info b.info = true ∨ less b'.info a'.info = true

theorem info_of_pending {a a' : PendingTask} (ha : a ∈ collectPendingTasks workflow state)
    (ha' : a' ∈ collectPendingTasks workflow state) (hid : a.info.id = a'.info.id) :
    a'.info = { a.info with phaseId := a'.info.phaseId } := by
  have hsame :=
    (forgetPhase_of_pending ha).trans ((congrArg _ hid).trans (forgetPhase_of_pending ha').symm)
  have hinfo := congrArg PendingTask.info hsame
  cases hinfoA : a.info
  cases hinfoB : a'.info
  simp only [PendingTask.forgetPhase, hinfoA, hinfoB, TaskInfo.mk.injEq] at hinfo ⊢
  obtain ⟨h1, -, h2⟩ := hinfo
  exact ⟨h1.symm, trivial, by simpa [eq_comm] using h2⟩

theorem TellsApart.separates {strategy : ShippedStrategy} {ready : List PendingTask}
    (hready : ∀ task ∈ ready, task ∈ collectPendingTasks workflow state)
    (h : TellsApart (collectPendingTasks workflow state) ready strategy) :
    Separates (collectPendingTasks workflow state) ready strategy.less := by
  intro first hfirst second hsecond hne a ha a' ha' b hb b' hb' hida hida' hidb hidb'
  by_contra hneither
  obtain ⟨hab, hba⟩ := not_or.mp hneither
  replace hab := Bool.eq_false_iff.mpr hab
  replace hba := Bool.eq_false_iff.mpr hba
  have hinfo := info_of_pending (hready first hfirst) ha hida.symm
  have hinfo' := info_of_pending (hready first hfirst) ha' hida'.symm
  have hinfoB := info_of_pending (hready second hsecond) hb hidb.symm
  have hinfoB' := info_of_pending (hready second hsecond) hb' hidb'.symm
  cases strategy with
  | edf =>
    rw [hinfo, hinfoB] at hab
    rw [hinfo', hinfoB'] at hba
    obtain ⟨hpriority, hdeadline⟩ := edfLess_tied ⟨hab, hba⟩
    rcases h first hfirst second hsecond hne with hdiffer | hdiffer
    · exact hdiffer hpriority
    · exact hdiffer hdeadline
  | sjf =>
    rw [hinfo, hinfoB] at hab
    rw [hinfo', hinfoB'] at hba
    exact hne (sjfLess_tied ⟨hab, hba⟩)
  | priorityOnly =>
    rw [hinfo, hinfoB] at hab
    rw [hinfo', hinfoB'] at hba
    exact hne (priorityOnlyLess_tied ⟨hab, hba⟩)
  | fifo =>
    have hsame : fifoLess a.info b.info = fifoLess a'.info b'.info :=
      h first hfirst second hsecond hne a ha a' ha' b hb b' hb' hida hida' hidb hidb'
    have htied : Tied fifoLess a'.info b'.info := ⟨hsame.symm.trans hab, hba⟩
    exact hne (hida'.symm.trans ((fifoLess_tied htied).trans hidb'))

theorem filterMap_pendingById_sublist (pendingTasks : List PendingTask) (ids : List TaskId) :
    ((ids.filterMap (pendingById pendingTasks)).map fun task => task.info.id).Sublist ids := by
  induction ids with
  | nil => exact List.Sublist.refl _
  | cons id rest ih =>
    cases hfound : pendingById pendingTasks id with
    | none =>
      rw [List.filterMap_cons_none hfound]
      exact ih.cons id
    | some task =>
      rw [List.filterMap_cons_some hfound, List.map_cons, (pendingById_sound hfound).2]
      exact ih.cons_cons id

/-- By some entries of theirs the first task may stand before the second. -/
def MayPrecede (less : TaskInfo → TaskInfo → Bool) (pendingTasks : List PendingTask)
    (x y : TaskId) : Prop :=
  ∃ a ∈ pendingTasks, ∃ b ∈ pendingTasks, a.info.id = x ∧ b.info.id = y ∧ less b.info a.info = false

def readyTasks (hash : IterationOrder) (pendingTasks : List PendingTask) (round : Nat)
    (s : PlanState) :
    List PendingTask :=
  ((hash.order round s.remainingTaskIds).filterMap (pendingById pendingTasks)).filter fun task =>
    !mutexConflict task s.blockedTaskIds && (dependencyReadyTime task s.completionTimes).isSome

theorem nodup_readyTasks (hash : IterationOrder) (pendingTasks : List PendingTask) (round : Nat)
    {s : PlanState} (hnodup : s.remainingTaskIds.Nodup) :
    ((readyTasks hash pendingTasks round s).map fun task => task.info.id).Nodup := by
  refine List.Nodup.sublist ((List.filter_sublist.map _).trans
    (filterMap_pendingById_sublist pendingTasks (hash.order round s.remainingTaskIds))) ?_
  exact (hash.perm round s.remainingTaskIds).nodup_iff.mpr hnodup

theorem pairwise_collectReadyTasks (hash : IterationOrder) (pendingTasks : List PendingTask)
    (round : Nat) {s : PlanState} (hnodup : s.remainingTaskIds.Nodup)
    {strategy : SchedulingStrategy} {less : TaskInfo → TaskInfo → Bool}
    (hstrategy : strategy.SortsBy less) :
    ((collectReadyTasks hash (some strategy) pendingTasks round s).map fun task =>
      task.info.id).Pairwise
      (MayPrecede less pendingTasks) := by
  have hpending :
      ∀ info ∈ strategy.orderTasks ((readyTasks hash pendingTasks round s).map PendingTask.info),
      ∃ task ∈ pendingTasks, task.info = info := by
    intro info hinfo
    obtain ⟨task, htask, rfl⟩ := List.mem_map.mp ((strategy.perm _).mem_iff.mp hinfo)
    obtain ⟨id, -, hfound⟩ := List.mem_filterMap.mp (List.mem_filter.mp htask).1
    exact ⟨task, (pendingById_sound hfound).1, rfl⟩
  have hordered :=
    map_id_orderReadyTasks (some strategy) (nodup_readyTasks hash pendingTasks round hnodup)
  change ((orderReadyTasks (some strategy) (readyTasks hash pendingTasks round s)).map _).Pairwise _
  rw [hordered, List.pairwise_map]
  refine (hstrategy _).imp_of_mem ?_
  intro a b ha hb hless
  obtain ⟨first, hfirst, rfl⟩ := hpending a ha
  obtain ⟨second, hsecond, rfl⟩ := hpending b hb
  exact ⟨first, hfirst, second, hsecond, rfl, rfl, hless⟩

theorem nodup_collectReadyTasks (hash : IterationOrder) (strategy : Option SchedulingStrategy)
    (pendingTasks : List PendingTask) (round : Nat) {s : PlanState}
    (hnodup : s.remainingTaskIds.Nodup) :
    ((collectReadyTasks hash strategy pendingTasks round s).map fun task => task.info.id).Nodup :=
  ((perm_sortBy _ _).map _).nodup_iff.mpr (nodup_readyTasks hash pendingTasks round hnodup)

theorem ready_transfer {hash : IterationOrder} {strategy : Option SchedulingStrategy} {round : Nat}
    {pendingTasks pendingTasks' : List PendingTask} {s t : PlanState} (hash' : IterationOrder)
    (strategy' : Option SchedulingStrategy) (hperm : pendingTasks.Perm pendingTasks')
    (hprocess : ∀ a ∈ pendingTasks, ∀ b ∈ pendingTasks, a.info.id = b.info.id →
      a.process = b.process)
    (hs : s.Matches t) {task : PendingTask}
    (htask : task ∈ collectReadyTasks hash strategy pendingTasks round s) :
    ∃ task' ∈ collectReadyTasks hash' strategy' pendingTasks' round t,
      task'.info.id = task.info.id := by
  obtain ⟨hpending, hremaining, hfree, hready⟩ := ready_of_mem_collectReadyTasks htask
  apply exists_mem_collectReadyTasks hash' strategy' round (hperm.mem_iff.mp hpending)
  · exact fun entry hentry hid => hprocess entry (hperm.mem_iff.mpr hentry) task hpending hid
  · exact hs.remaining.mem_iff.mp hremaining
  · rwa [← mutexConflict_congr hs.blocked]
  · rwa [← dependencyReadyTime_congr hs.completionTimes]

theorem PlanState.Matches.symm {s t : PlanState} (h : s.Matches t) : t.Matches s where
  remaining := h.remaining.symm
  reservations := h.reservations.symm
  completionTimes id := (h.completionTimes id).symm
  blocked id := (h.blocked id).symm
  assignments := h.assignments.symm
  ranking := h.ranking.symm

/-- Two ready tasks that may stand in either order are one. -/
theorem Separates.mayPrecede_antisymm {pendingTasks ready : List PendingTask}
    {less : TaskInfo → TaskInfo → Bool} (hless : Separates pendingTasks ready less)
    {first second : PendingTask} (hfirst : first ∈ ready) (hsecond : second ∈ ready)
    (hbefore : MayPrecede less pendingTasks first.info.id second.info.id)
    (hafter : MayPrecede less pendingTasks second.info.id first.info.id) :
    first.info.id = second.info.id := by
  by_contra hne
  obtain ⟨a, ha, b, hb, haid, hbid, hab⟩ := hbefore
  obtain ⟨b', hb', a', ha', hbid', haid', hba⟩ := hafter
  rcases hless first hfirst second hsecond hne a' ha' a ha b' hb' b hb haid' haid hbid'
    hbid with hlt | hlt
  · rw [hba] at hlt
    exact Bool.noConfusion hlt
  · rw [hab] at hlt
    exact Bool.noConfusion hlt

theorem readyIds_same (hash hash' : IterationOrder) {strategy strategy' : SchedulingStrategy}
    {round : Nat} {s t : PlanState} {pendingTasks' : List PendingTask}
    {less : TaskInfo → TaskInfo → Bool} (hnodup : s.remainingTaskIds.Nodup) (hmatches : s.Matches t)
    (hperm : (collectPendingTasks workflow state).Perm pendingTasks')
    (hless : Separates (collectPendingTasks workflow state)
      (collectReadyTasks hash (some strategy) (collectPendingTasks workflow state) round s) less)
    (hstrategy : strategy.SortsBy less) (hstrategy' : strategy'.SortsBy less) :
    (collectReadyTasks hash (some strategy) (collectPendingTasks workflow state) round s).map
        (fun task => task.info.id) =
      (collectReadyTasks hash' (some strategy') pendingTasks' round t).map fun task =>
        task.info.id := by
  have hprocess : ∀ a ∈ collectPendingTasks workflow state,
      ∀ b ∈ collectPendingTasks workflow state,
      a.info.id = b.info.id → a.process = b.process := fun _ ha _ hb => process_eq_of_pending ha hb
  have hprocess' : ∀ a ∈ pendingTasks', ∀ b ∈ pendingTasks', a.info.id = b.info.id →
      a.process = b.process :=
    fun a ha b hb => hprocess a (hperm.mem_iff.mpr ha) b (hperm.mem_iff.mpr hb)
  have hremaining' : t.remainingTaskIds.Nodup := hmatches.remaining.nodup_iff.mp hnodup
  have hsorted :=
    pairwise_collectReadyTasks hash (collectPendingTasks workflow state) round hnodup hstrategy
  have hsorted' := pairwise_collectReadyTasks hash' pendingTasks' round hremaining' hstrategy'
  have hready :=
    nodup_collectReadyTasks hash (some strategy) (collectPendingTasks workflow state) round hnodup
  have hready' := nodup_collectReadyTasks hash' (some strategy') pendingTasks' round hremaining'
  have hback : ∀ y ∈ (collectReadyTasks hash' (some strategy') pendingTasks' round t).map
      fun task => task.info.id,
      ∃ task ∈ collectReadyTasks hash (some strategy) (collectPendingTasks workflow state) round s,
        task.info.id = y := by
    intro y hy
    obtain ⟨task', htask', rfl⟩ := List.mem_map.mp hy
    exact ready_transfer hash (some strategy) hperm.symm hprocess' hmatches.symm htask'
  refine List.Perm.eq_of_pairwise ?_ hsorted (hsorted'.imp ?_)
    ((List.perm_ext_iff_of_nodup hready hready').mpr ?_)
  · intro x y hx hy hxy hyx
    obtain ⟨first, hfirst, rfl⟩ := List.mem_map.mp hx
    obtain ⟨second, hsecond, rfl⟩ := hback y hy
    exact hless.mayPrecede_antisymm hfirst hsecond hxy hyx
  · rintro x y ⟨a, ha, b, hb, hrest⟩
    exact ⟨a, hperm.mem_iff.mpr ha, b, hperm.mem_iff.mpr hb, hrest⟩
  · intro id
    constructor
    · intro hid
      obtain ⟨task, htask, rfl⟩ := List.mem_map.mp hid
      obtain ⟨task', htask', hsame⟩ :=
        ready_transfer hash' (some strategy') hperm hprocess hmatches htask
      exact List.mem_map.mpr ⟨task', htask', hsame⟩
    · intro hid
      obtain ⟨task, htask, rfl⟩ := hback id hid
      exact List.mem_map_of_mem htask

/-- The ready tasks of both passes are the same, in the same order: but for the phase a task is
what the workflow says about its id. -/
theorem readyTasks_same (hash hash' : IterationOrder) {strategy strategy' : SchedulingStrategy}
    {round : Nat} {s t : PlanState} {pendingTasks' : List PendingTask}
    {less : TaskInfo → TaskInfo → Bool} (hnodup : s.remainingTaskIds.Nodup) (hmatches : s.Matches t)
    (hperm : (collectPendingTasks workflow state).Perm pendingTasks')
    (hless : Separates (collectPendingTasks workflow state)
      (collectReadyTasks hash (some strategy) (collectPendingTasks workflow state) round s) less)
    (hstrategy : strategy.SortsBy less) (hstrategy' : strategy'.SortsBy less) :
    (collectReadyTasks hash (some strategy) (collectPendingTasks workflow state) round s).map
        PendingTask.forgetPhase =
      (collectReadyTasks hash' (some strategy') pendingTasks' round t).map
        PendingTask.forgetPhase := by
  have hforget : ∀ tasks : List PendingTask,
      (∀ task ∈ tasks, task ∈ collectPendingTasks workflow state) →
      tasks.map PendingTask.forgetPhase =
        (tasks.map fun task => task.info.id).map (pendingTask workflow "") := by
    intro tasks htasks
    rw [List.map_map]
    exact List.map_congr_left fun task htask => forgetPhase_of_pending (htasks task htask)
  rw [hforget _ fun task htask => mem_collectReadyTasks hash _ htask,
    readyIds_same hash hash' hnodup hmatches hperm hless hstrategy hstrategy',
    hforget _ fun task htask => hperm.mem_iff.mpr (mem_collectReadyTasks hash' _ htask)]

end Order

/-- In whatever order hash containers are iterated, and however the sorts arrange what their
comparators call equivalent, the assignments are the same. -/
def OrderFree (strategy : ShippedStrategy) (workflow : Workflow) (state : WorkflowState)
    (registry : ActorRegistry) (now : Time) (rankingProfile : Option ActorRankingProfile) : Prop :=
  ∀ (workflow' : Workflow) (registry' : ActorRegistry) (sort sort' : SchedulingStrategy)
    (hash hash' : IterationOrder), workflow.SameRows workflow' → registry.SameActors registry' →
      sort.SortsBy strategy.less → sort'.SortsBy strategy.less →
        (plan hash workflow state registry now (some sort) rankingProfile).assignments =
          (plan hash' workflow' state registry' now (some sort') rankingProfile).assignments

section Reference

variable {strategy : ShippedStrategy} {workflow : Workflow} {state : WorkflowState}
variable {registry : ActorRegistry} {now : Time}
  {rankingProfile : Option ActorRankingProfile}

theorem nodup_of_beforeRound {hash : IterationOrder} {sort : Option SchedulingStrategy}
    {profile : ActorRankingProfile} {pendingTasks : List PendingTask} {initial s : PlanState}
    {round : Nat} (hinitial : initial.remainingTaskIds.Nodup)
    (h : BeforeRound hash registry state now sort profile pendingTasks initial round s) :
    s.remainingTaskIds.Nodup := by
  induction h with
  | first => exact hinitial
  | next _ _ ih =>
    rw [foldl_planTask_erases]
    exact nodup_foldl_erase ih _

/-- A pass plans as the one that iterates in the order of insertion and keeps the order of ties. -/
theorem ToldApart.plan_eq (hresolves : workflow.Resolves)
    (hapart : ToldApart workflow state registry now rankingProfile strategy) {workflow' : Workflow}
    {registry' : ActorRegistry} {sort' : SchedulingStrategy} (hash' : IterationOrder)
    (hrows : workflow.SameRows workflow') (hactors : registry.SameActors registry')
    (hsort' : sort'.SortsBy strategy.less) :
    (plan insertionOrder workflow state registry now
      (some strategy.stable) rankingProfile).assignments =
      (plan hash' workflow' state registry' now (some sort') rankingProfile).assignments := by
  have hpending : (collectPendingTasks workflow state).Perm (collectPendingTasks workflow' state) :=
    collectPendingTasks_perm hrows hresolves
  have hcandidates : SameCandidates registry state registry' state := sameCandidates_of_same hactors
  have hinitial := initialPlanState_matches state now hrows hresolves hactors
  have hrounds := hcandidates.rounds now (effectiveRankingProfile rankingProfile)
    (fun round s _ => BeforeRound insertionOrder registry state now (some strategy.stable)
      (effectiveRankingProfile rankingProfile) (collectPendingTasks workflow state)
      (initialPlanState workflow state registry now (collectPendingTasks workflow state)) round s)
    (fun round s t hs hbefore => readyTasks_same insertionOrder hash'
      (nodup_of_beforeRound (List.nodup_dedup _) hbefore) hs hpending
      ((hapart round s hbefore).separates fun task => mem_collectReadyTasks insertionOrder _)
      strategy.sortsBy_stable hsort')
    (fun round s t _ hbefore hprogress => hbefore.next hprogress)
    (initialPlanState workflow state registry now
      (collectPendingTasks workflow state)).remainingTaskIds.length 0
    hinitial .first
  rw [hinitial.remaining.length_eq] at hrounds
  have hempty : (collectPendingTasks workflow' state).isEmpty =
      (collectPendingTasks workflow state).isEmpty := by
    rw [Bool.eq_iff_iff, List.isEmpty_iff,
      List.isEmpty_iff, ← List.length_eq_zero_iff, ← List.length_eq_zero_iff, hpending.length_eq]
  have hvalid : validateSupportedTasks (collectPendingTasks workflow state) = none ↔
      validateSupportedTasks (collectPendingTasks workflow' state) = none := by
    simp only [validateSupportedTasks, Option.map_eq_none_iff, List.find?_eq_none, hpending.mem_iff]
  unfold plan
  dsimp only
  rw [hempty]
  split_ifs
  · rfl
  · cases hcase : validateSupportedTasks (collectPendingTasks workflow state) with
    | none =>
      rw [hvalid.mp hcase]
      dsimp only
      rw [← hrounds.assignments, hinitial.remaining.length_eq]
    | some validationError =>
      cases hcase' : validateSupportedTasks (collectPendingTasks workflow' state) with
      | none =>
        rw [hvalid.mpr hcase'] at hcase
        exact absurd hcase (by simp)
      | some other => rfl

theorem Workflow.SameRows.refl (workflow : Workflow) :
    workflow.SameRows workflow := ⟨.refl _, .refl _⟩

theorem ActorRegistry.SameActors.refl (registry : ActorRegistry) :
    registry.SameActors registry where
  ids := .refl _
  actors id := by
    cases registry.get id with
    | none => exact .none
    | some actor => exact .some ⟨rfl, .refl _⟩

theorem OrderFree.of_toldApart (hresolves : workflow.Resolves)
    (hapart : ToldApart workflow state registry now rankingProfile strategy) :
    OrderFree strategy workflow state registry now rankingProfile := by
  intro workflow' registry' sort sort' hash hash' hrows hactors hsort hsort'
  exact (hapart.plan_eq hresolves hash (.refl workflow) (.refl registry) hsort).symm.trans
    (hapart.plan_eq hresolves hash' hrows hactors hsort')

end Reference

theorem Workflow.resolves_of_leaves {workflow : Workflow}
    (h : ∀ process ∈ workflow.processes.rows, process.subProcessIds = []) : workflow.Resolves := by
  intro taskId _ p hp q _ htask
  rw [h p hp] at htask
  exact absurd htask List.not_mem_nil

/-- Hash sets that are iterated against the order of insertion. -/
def reverseOrder : IterationOrder := ⟨fun _ ids => ids.reverse, fun _ ids => ids.reverse_perm⟩

/-- Tasks `a` and `b` for one actor, in phases that stand in the given order. -/
def contention (phases : List Phase) (priority : Priority) : Workflow :=
  ((phases.foldl Workflow.addPhase {}).addProcess
    { id := "a", estimatedDuration := 5, priority := priority }).addProcess
    { id := "b", estimatedDuration := 5 }

def singleActor : ActorRegistry :=
  ({} : ActorRegistry).add { id := "x", availabilityWindows := [{ start := 0, stop := 20 }] }

def onePhase : List Phase := [{ id := "phase", processIds := ["a", "b"] }]

/-- Two ready phases list `b`, one comes before the phase of `a` and one after it. -/
def threePhases : List Phase :=
  [{ id := "1", processIds := ["b"] }, { id := "2", processIds := ["a"] },
    { id := "3", processIds := ["b"] }]

theorem contention_resolves_one :
    (contention onePhase 0).Resolves := Workflow.resolves_of_leaves (by decide)

theorem contention_resolves_three :
    (contention threePhases 0).Resolves := Workflow.resolves_of_leaves (by decide)

/-- Tasks of one priority without deadlines are placed in the order of iteration. -/
theorem edf_shows_order : ¬OrderFree .edf (contention onePhase 0) {} singleActor 0 none := by
  intro hfree
  have hplans :=
    hfree _ _ _ _ insertionOrder reverseOrder (.refl _) (.refl _) ShippedStrategy.edf.sortsBy_stable
    ShippedStrategy.edf.sortsBy_stable
  exact absurd hplans (by decide)

/-- A task counts for the phase that is iterated first. -/
theorem fifo_shows_order : ¬OrderFree .fifo (contention threePhases 0) {} singleActor 0 none := by
  intro hfree
  have hrows : (contention threePhases 0).SameRows (contention threePhases.reverse 0) :=
    ⟨(List.reverse_perm _).symm, .refl _⟩
  have hplans :=
    hfree _ _ _ _ insertionOrder insertionOrder hrows (.refl _) ShippedStrategy.fifo.sortsBy_stable
    ShippedStrategy.fifo.sortsBy_stable
  exact absurd hplans (by decide)

/-- The plan does not depend on the order of hash containers when the strategy tells apart what is
ready in one round. Two strategies do so whatever the workflow: they end with the id, and what they
look at before it is the same in every phase that lists the task. -/
theorem plan_order_free (strategy : ShippedStrategy) :
    (∀ (workflow : Workflow) (state : WorkflowState) (registry : ActorRegistry) (now : Time)
      (rankingProfile : Option ActorRankingProfile), workflow.Resolves →
        ToldApart workflow state registry now rankingProfile strategy →
          OrderFree strategy workflow state registry now rankingProfile) ∧
    ((∀ (workflow : Workflow) (state : WorkflowState) (registry : ActorRegistry) (now : Time)
      (rankingProfile : Option ActorRankingProfile), workflow.Resolves →
        OrderFree strategy workflow state registry now rankingProfile) ↔
      strategy = .sjf ∨ strategy = .priorityOnly) := by
  refine ⟨fun _ _ _ _ _ hresolves hapart => .of_toldApart hresolves hapart, ?_⟩
  constructor
  · intro hfree
    cases strategy with
    | edf => exact absurd (hfree _ _ _ _ _ contention_resolves_one) edf_shows_order
    | sjf => exact Or.inl rfl
    | priorityOnly => exact Or.inr rfl
    | fifo => exact absurd (hfree _ _ _ _ _ contention_resolves_three) fifo_shows_order
  · rintro (rfl | rfl) workflow state registry now profile hresolves
    · exact .of_toldApart hresolves fun _ _ _ => trivial
    · exact .of_toldApart hresolves fun _ _ _ => trivial

/-- Task `b` may not run besides the completed task `c`, so that `a` alone is ready. -/
def barredContention : Workflow :=
  ((onePhase.foldl Workflow.addPhase {}).addProcess
    { id := "a", estimatedDuration := 5 }).addProcess
    { id := "b", estimatedDuration := 5, mutuallyExclusiveTaskIds := ["c"] }

def completedC : WorkflowState := { completedTasks := ["c"] }

def barredRound (round : Nat) (s : PlanState) : List PendingTask :=
  collectReadyTasks insertionOrder (some ShippedStrategy.edf.stable)
    (collectPendingTasks barredContention completedC)
    round s

def barredStart : PlanState :=
  initialPlanState barredContention completedC singleActor 0
    (collectPendingTasks barredContention completedC)

/-- The state after the round in which `a` is placed. -/
def barredNext : PlanState :=
  ((barredRound 0 barredStart).foldl
    (planTask singleActor completedC 0 (effectiveRankingProfile none))
    (barredStart, false)).1

/-- The two tasks are tied, and `b` is never ready. -/
theorem plan_order_free_of_barred :
    ToldApart barredContention completedC singleActor 0 none .edf ∧
      OrderFree .edf barredContention completedC singleActor 0 none := by
  have hrounds : ∀ round s, BeforeRound insertionOrder singleActor completedC 0
      (some ShippedStrategy.edf.stable)
      (effectiveRankingProfile none) (collectPendingTasks barredContention completedC)
        barredStart round s →
      round = 0 ∧ s = barredStart ∨ round = 1 ∧ s = barredNext := by
    intro round s h
    induction h with
    | first => exact Or.inl ⟨rfl, rfl⟩
    | next _ hprogress ih =>
      rcases ih with ⟨rfl, rfl⟩ | ⟨rfl, rfl⟩
      · exact Or.inr ⟨rfl, rfl⟩
      · exact absurd hprogress (by decide)
  have hapart : ToldApart barredContention completedC singleActor 0 none .edf := by
    intro round s h
    rcases hrounds round s h with ⟨rfl, rfl⟩ | ⟨rfl, rfl⟩
    · show ∀ a ∈ barredRound 0 barredStart, ∀ b ∈ barredRound 0 barredStart, _
      decide
    · show ∀ a ∈ barredRound 1 barredNext, ∀ b ∈ barredRound 1 barredNext, _
      decide
  exact ⟨hapart,
    (plan_order_free .edf).1 _ _ _ _ _ (Workflow.resolves_of_leaves (by decide)) hapart⟩

theorem plan_order_shows :
    (contention onePhase 0).Resolves ∧
    ¬OrderFree .edf (contention onePhase 0) {} singleActor 0 none ∧
      (contention threePhases 0).Resolves ∧
        ¬OrderFree .fifo (contention threePhases 0) {} singleActor 0 none :=
  ⟨contention_resolves_one, edf_shows_order, contention_resolves_three, fifo_shows_order⟩

end TaskOrchestrator.Core
