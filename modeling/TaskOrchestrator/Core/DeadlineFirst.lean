import TaskOrchestrator.Core.Batches

/-!
# The earliest deadline first

The strategy `edf` orders by priority, then by deadline. When each pending task of a batch has its
own actor, which works on one task at a time, and the priorities do not contradict the deadlines,
the pass leaves a task out only if every feasible plan does.
-/

namespace TaskOrchestrator.Core

open Library

set_option autoImplicit false

section Specification

variable (workflow : Workflow) (state : WorkflowState) (registry : ActorRegistry) (now : Time)

def dueOf (taskId : TaskId) : WithTop Int := (workflow.processForTask taskId).bind Process.deadline

/-- No other available actor can take a task than its home, which works on one task at a time, in
one window. -/
structure Dedicated (home : TaskId → ActorId) (opens : ActorId → Time) : Prop where
  only : ∀ id, Pending workflow state id → ∀ actorId actor, registry.get actorId = some actor →
    actorId ∉ state.unavailableActors → Suits workflow state id actor → actorId = home id
  opensAfter : ∀ id, Pending workflow state id → now ≤ opens (home id)
  oneAtATime : ∀ id, Pending workflow state id → ∀ actor, registry.get (home id) = some actor →
    OneAtATime workflow state registry now (home id) actor (opens (home id))
  window : ∀ id, Pending workflow state id → ∀ actor, registry.get (home id) = some actor →
    ∃ window, actor.availabilityWindows = [window] ∧ window.start ≤ opens (home id)

/-- Of two tasks with one home the one that goes first is due no later, and what starts in time for
its deadline starts in time. -/
structure Agreeable (home : TaskId → ActorId) : Prop where
  priorities : ∀ a ∈ collectPendingTasks workflow state, ∀ b ∈ collectPendingTasks workflow state,
    home a.info.id = home b.info.id → b.info.priority < a.info.priority →
      dueOf workflow a.info.id ≤ dueOf workflow b.info.id
  latestStarts : ∀ id, Pending workflow state id → ∀ process ∈ workflow.processForTask id,
    ∀ latest ∈ process.latestStartTime, ∃ deadline ∈ process.deadline,
      deadline ≤ latest + taskDuration workflow id

end Specification

section Order

variable {workflow : Workflow} {state : WorkflowState} {registry : ActorRegistry} {now : Time}
variable {home : TaskId → ActorId} {opens : ActorId → Time}

theorem le_dueOf_iff {id : TaskId} {instant : Int} :
    (instant : WithTop Int) ≤ dueOf workflow id ↔
      ∀ process ∈ workflow.processForTask id, ∀ deadline ∈ process.deadline, instant ≤
      deadline := by
  have hnone : (instant : WithTop Int) ≤ ⊤ := le_top
  have hsome : ∀ deadline : Int, (instant : WithTop Int) ≤ deadline ↔ instant ≤ deadline :=
    fun deadline =>
    WithTop.coe_le_coe
  unfold dueOf
  cases workflow.processForTask id with
  | none => exact ⟨fun _ process hprocess => absurd hprocess (by simp), fun _ => hnone⟩
  | some process =>
    rw [Option.bind_some]
    cases hdeadline : process.deadline with
    | none =>
      refine ⟨fun _ other hother deadline hmem => ?_, fun _ => hnone⟩
      obtain rfl := Option.some.inj hother
      exact absurd (hdeadline.symm.trans hmem) (by simp)
    | some deadline =>
      constructor
      · intro hle other hother bound hmem
        obtain rfl := Option.some.inj hother
        obtain rfl := Option.some.inj (hdeadline.symm.trans hmem)
        exact (hsome deadline).mp hle
      · intro hall
        exact (hsome deadline).mpr (hall process rfl deadline hdeadline)

/-- Tasks of one home are taken up in the order of their deadlines. -/
theorem Agreeable.due_le (h : Agreeable workflow state home) {x y : TaskId}
    (hhome : home x = home y)
    (horder : MayPrecede edfLess (collectPendingTasks workflow state) x y) :
    dueOf workflow x ≤ dueOf workflow y := by
  obtain ⟨a, ha, b, hb, rfl, rfl, hless⟩ := horder
  have hdue : ∀ task ∈ collectPendingTasks workflow state, deadlineKey task.info =
      dueOf workflow task.info.id := by
    intro task htask
    have hdescribes := (mem_collectPendingTasks htask).1
    rw [deadlineKey, hdescribes.deadline, hdescribes.process]
    rfl
  rw [edfLess_eq] at hless
  rcases byKeyThen_eq_false.mp hless with hpriority | ⟨-, hrest⟩
  · exact h.priorities a ha b hb hhome hpriority
  · rw [← hdue a ha, ← hdue b hb]
    exact byKey_eq_false.mp hrest

theorem freeFrom_home {plan : List Assignment} (hhome : ∀ a ∈ plan, a.actorId = home a.taskId)
    (actorId : ActorId) (start : Time) :
    freeFrom workflow start plan actorId =
      start +
      (((plan.map Assignment.taskId).filter fun id => home id = actorId).map
        (taskDuration workflow)).sum := by
  have hsame : assignedTo actorId plan = plan.filter fun a => home a.taskId = actorId := by
    apply List.filter_congr
    intro a ha
    rw [hhome a ha]
  rw [freeFrom, hsame, List.filter_map, List.map_map]
  rfl

theorem Dedicated.home_eq (h : Dedicated workflow state registry now home opens)
    {plan : List Assignment} (hplan : Feasible workflow state registry now plan) :
    ∀ a ∈ plan, a.actorId = home a.taskId := by
  intro a ha
  obtain ⟨actor, hactor, hadmissible⟩ := hplan.admissible a ha
  exact h.only _ (pending_of_admissible hadmissible) _ actor hactor hadmissible.available
    hadmissible.suits

/-- The tasks that are due no later than one of them leave its home enough time for all, if any
plan assigns them in time. -/
theorem Dedicated.finish_le (h : Dedicated workflow state registry now home opens)
    (hbatch : Batch workflow state now) {plan : List Assignment}
    (hplan : Feasible workflow state registry now plan) (hcomplete : Complete workflow state plan)
    {id : TaskId} (hid : Pending workflow state id) {actor : Actor}
    (hactor : registry.get (home id) = some actor) {window : AvailabilityWindow}
    (hwindow : actor.availabilityWindows = [window]) {ids : List TaskId} (hnodup : ids.Nodup)
    (hids : ∀ i ∈ ids, Pending workflow state i ∧ home i = home id ∧
      dueOf workflow i ≤ dueOf workflow id) :
    ((opens (home id) + (ids.map (taskDuration workflow)).sum : Int) : WithTop Int) ≤
      dueOf workflow id ∧
      opens (home id) + (ids.map (taskDuration workflow)).sum ≤ window.stop := by
  obtain ⟨assignmentFor, hfor⟩ := hcomplete.exists_assignmentFor
  have hjobs : ∀ i ∈ insert id ids.toFinset, Pending workflow state i := by
    intro i hi
    rcases Finset.mem_insert.mp hi with rfl | hi
    · exact hid
    · exact (hids i (List.mem_toFinset.mp hi)).1
  have hmachine : ∀ i, Pending workflow state i → (assignmentFor i).actorId = home i := by
    intro i hi
    obtain ⟨hmem, htask⟩ := hfor i hi
    rw [h.home_eq hplan _ hmem, htask]
  have hserial : (timetable workflow assignmentFor).Serial opens (insert id ids.toFinset) := by
    apply hplan.serial hbatch ?_ hfor hjobs
    intro a ha actor hactor
    obtain ⟨own, -, hadmissible⟩ := hplan.admissible a ha
    rw [h.home_eq hplan a ha] at hactor ⊢
    exact h.oneAtATime _ (pending_of_admissible hadmissible) actor hactor
  have hmine : (timetable workflow assignmentFor).machine id = home id := hmachine id hid
  have hsum : ∑ i ∈ ids.toFinset, (timetable workflow assignmentFor).duration i =
      (ids.map (taskDuration workflow)).sum :=
    List.sum_toFinset _ hnodup
  -- What is assigned to the home in the other plan is inside its window.
  have hinside : ∀ i, Pending workflow state i → home i = home id →
      window.start ≤ (assignmentFor i).startTime ∧
        (timetable workflow assignmentFor).stop i ≤ window.stop := by
    intro i hi hhome
    obtain ⟨hmem, htask⟩ := hfor i hi
    have hassigned : assignmentFor i ∈ assignedTo (home id) plan :=
      mem_assignedTo.mpr ⟨hmem, (hmachine i hi).trans hhome⟩
    have hadmissible := hplan.admissible_on hactor hassigned
    obtain ⟨found, hfound, hstart, hstop⟩ :=
      hadmissible.window (by rw [htask]; exact hbatch.durations i hi)
    rw [hwindow, List.mem_singleton] at hfound
    rw [hfound, htask] at hstop
    exact ⟨hfound ▸ hstart, hstop⟩
  constructor
  · rw [← hsum, ← hmine]
    apply hserial.due_met ?_ (Finset.mem_insert_self _ _)
    · intro i hi
      obtain ⟨hpending, hhome, hdue⟩ := hids i (List.mem_toFinset.mp hi)
      exact ⟨Finset.mem_insert_of_mem hi, (hmachine i hpending).trans (hhome.trans hmine.symm),
        hdue⟩
    · intro i hi
      obtain ⟨hmem, htask⟩ := hfor i (hjobs i hi)
      obtain ⟨own, -, hadmissible⟩ := hplan.admissible _ hmem
      have hdeadline := hadmissible.deadline
      rw [htask] at hdeadline
      exact le_dueOf_iff.mpr hdeadline
  · rw [← hsum, ← hmine]
    apply hserial.work_le
    · have hafter := hserial.after id (Finset.mem_insert_self _ _)
      have hpositive := hserial.positive id (Finset.mem_insert_self _ _)
      have hstop := (hinside id hid rfl).2
      unfold Timetable.stop at hstop
      omega
    · intro i hi
      obtain ⟨hpending, hhome, -⟩ := hids i (List.mem_toFinset.mp hi)
      exact ⟨Finset.mem_insert_of_mem hi, (hmachine i hpending).trans (hhome.trans hmine.symm),
        (hinside i hpending hhome).2⟩

end Order

section Pass

variable {workflow : Workflow} {state : WorkflowState} {registry : ActorRegistry} {now : Time}
variable {home : TaskId → ActorId} {opens : ActorId → Time}

/-- A task goes to its home as soon as that is free, which is in time if any plan has all tasks in
time. -/
theorem Dedicated.selects (h : Dedicated workflow state registry now home opens)
    (hbatch : Batch workflow state now) (hagree : Agreeable workflow state home)
    {plan : List Assignment} (hplan : Feasible workflow state registry now plan)
    (hcomplete : Complete workflow state plan) {order : List TaskId} (hnodup : order.Nodup)
    (hsorted : order.Pairwise (MayPrecede edfLess (collectPendingTasks workflow state)))
    (horder : ∀ id ∈ order, Pending workflow state id) (profile : ActorRankingProfile)
    {s : PlanState} {taken : List TaskId} {task : PendingTask}
    (hs : Taken workflow state registry now s taken)
    (hpacked : ∀ actorId, Packed workflow (opens actorId) s.assignments actorId)
    (htask : task ∈ collectPendingTasks workflow state)
    (hfront : taken ++ [task.info.id] <+: order) :
    ∃ selection, selectBestCandidate registry state now profile task s.reservations
      s.completionTimes = some selection ∧
      ∀ actorId, Packed workflow (opens actorId) (s.place task selection).assignments actorId := by
  have hpending := (pending_iff hbatch.disjoint task.info.id).mpr ⟨task, htask, rfl⟩
  have hshort := hfront.sublist.nodup hnodup
  have hnew : task.info.id ∉ taken := fun hmem =>
    (List.nodup_append.mp hshort).2.2 _ hmem _ (List.mem_singleton_self _) rfl
  obtain ⟨a, ha, hid⟩ := hcomplete _ hpending
  obtain ⟨actor, hactor, hadmissible⟩ := hplan.admissible a ha
  have hhome : a.actorId = home task.info.id := by rw [h.home_eq hplan a ha, hid]
  have havailable : home task.info.id ∉ state.unavailableActors := hhome ▸ hadmissible.available
  have hsuits : Suits workflow state task.info.id actor := hid ▸ hadmissible.suits
  rw [hhome] at hactor
  have hactorId : actor.id = home task.info.id := ActorRegistry.id_of_get hactor
  obtain ⟨window, hwindow, hstart⟩ := h.window _ hpending actor hactor
  have hone := h.oneAtATime _ hpending actor hactor
  -- The tasks of its home up to it, all due no later.
  have hmine := h.finish_le hbatch hplan hcomplete hpending hactor hwindow
    (hshort.filter fun id => home id = home task.info.id) (by
      intro i hi
      obtain ⟨hmem, hsame⟩ := List.mem_filter.mp hi
      have hsame := of_decide_eq_true hsame
      refine ⟨horder i (hfront.subset hmem), hsame, ?_⟩
      rcases List.mem_append.mp hmem with hbefore | hlast
      · have hpairs := (List.pairwise_append.mp (hsorted.sublist hfront.sublist)).2.2
        exact hagree.due_le hsame (hpairs i hbefore _ (List.mem_singleton_self _))
      · rw [List.mem_singleton.mp hlast])
  have hfree : freeFrom workflow (opens (home task.info.id)) s.assignments (home task.info.id) +
      taskDuration workflow task.info.id = opens (home task.info.id) +
        (((taken ++ [task.info.id]).filter fun id => home id = home task.info.id).map
          (taskDuration workflow)).sum := by
    rw [freeFrom_home (h.home_eq hs.maximal.tables.feasible), hs.assigned, List.filter_append,
      List.map_append, List.sum_append]
    simp [add_assoc]
  rw [← hfree] at hmine
  obtain ⟨hdue, hstop⟩ := hmine
  have hearliest := hone.earliestStart_eq hbatch hactor (h.opensAfter _ hpending) hs.maximal
    (hpacked _) htask (hs.new hnew) hsuits (by rw [hwindow]; exact List.mem_singleton_self window)
    (hstart.trans (hs.maximal.tables.feasible.opens_le_freeFrom hbatch _ _)) hstop
  generalize hfreeFrom : freeFrom workflow (opens (home task.info.id)) s.assignments
    (home task.info.id) = free at hdue hearliest
  have hintime : InTime workflow task.info.id free := by
    refine ⟨fun process hprocess latest hlatest => ?_, le_dueOf_iff.mp hdue⟩
    obtain ⟨deadline, hdeadline, hslack⟩ :=
      hagree.latestStarts _ hpending process hprocess latest hlatest
    exact le_of_add_le_add_right
      ((le_dueOf_iff.mp hdue process hprocess deadline hdeadline).trans hslack)
  have hcandidate : FeasibleCandidate registry state now task s.reservations s.completionTimes
      (buildCandidate task actor free state (reservationsOf s.reservations actor.id)) := by
    rw [hbatch.feasibleCandidate_iff hs.maximal htask]
    rw [← hactorId] at hactor havailable hearliest
    exact ⟨actor, hactor, havailable, hsuits, hearliest, hintime, rfl⟩
  obtain ⟨selection, hselection, hfirst⟩ := exists_selection profile hcandidate
  refine ⟨selection, hselection, fun actorId =>
    (hpacked actorId).append (hbatch.durations _ hpending) ?_⟩
  -- No other actor can take the task, so what is selected is what its home offers.
  obtain ⟨own, hown, hownAvailable, hownSuits, hownEarliest, -, hbuilt⟩ :=
    (hbatch.feasibleCandidate_iff hs.maximal htask).mp hfirst.mem
  have hownId := h.only _ hpending _ own hown hownAvailable hownSuits
  rw [hownId] at hown hownEarliest
  obtain rfl := Option.some.inj (hactor.symm.trans hown)
  have hstartTime : selection.candidate.startTime = free :=
    Option.some.inj (hownEarliest.symm.trans hearliest)
  have hselected : selection.candidate.actorId = home task.info.id := by
    rw [hbuilt]
    exact hownId
  intro hsame
  have hactorOf : home task.info.id = actorId := hselected.symm.trans hsame
  rw [← hactorOf, hfreeFrom]
  exact hstartTime

end Pass

/-- With dedicated actors and priorities that agree with the deadlines, the earliest deadline first
assigns all pending tasks of a batch exactly if some feasible plan does. -/
theorem edf_complete_iff (hash : IterationOrder) (workflow : Workflow) (state : WorkflowState)
    (registry : ActorRegistry) (now : Time) (strategy : Option SchedulingStrategy)
    (rankingProfile : Option ActorRankingProfile) (home : TaskId → ActorId) (opens : ActorId → Time)
    (hbatch : Batch workflow state now)
    (hdedicated : Dedicated workflow state registry now home opens)
    (hagree : Agreeable workflow state home)
    (hstrategy : (strategy.getD edfStrategy).SortsBy edfLess) :
    Complete workflow state
    (plan hash workflow state registry now strategy rankingProfile).assignments ↔
      ∃ other, Feasible workflow state registry now other ∧ Complete workflow state other := by
  obtain ⟨tasks, htasks, hnodup, hmem, hsorted, hperm⟩ :=
    hbatch.plan_eq_round registry hash hstrategy rankingProfile
  constructor
  · intro hcomplete
    have hkept : KeptByPlanning workflow registry state now (effectiveRankingProfile rankingProfile)
        (PlanInvariant workflow state registry now) := PlanInvariant.kept hbatch.disjoint
    have hround := hkept.round htasks (.initial (collectPendingTasks workflow state)) false
    exact ⟨_, hround.feasible.perm hperm.symm, hcomplete⟩
  · rintro ⟨other, hfeasible, hcomplete⟩
    have hround := Taken.round (effectiveRankingProfile rankingProfile) hbatch
      (fun s _ => ∀ actorId, Packed workflow (opens actorId) s.assignments actorId) hnodup
      (fun s taken task hs hpacked htask hfront =>
        hdedicated.selects hbatch hagree hfeasible hcomplete hnodup hsorted
          (fun id => (hmem id).mp) _ hs hpacked htask hfront)
      htasks (List.nil_append _) (Taken.initial hbatch registry)
        (fun actorId => .nil (opens actorId) actorId) false
    exact (hround.1.complete fun id => (hmem id).mpr).perm hperm.symm

/-- Two tasks for one actor, the longer of which is due later. -/
def dueWorkflow : Workflow :=
  ((({} : Workflow).addPhase { id := "phase", processIds := ["a", "b"] }).addProcess
    { id := "a", estimatedDuration := 3, deadline := some 5 }).addProcess
      { id := "b", estimatedDuration := 2, deadline := some 2 }

def dueActor : Actor := { id := "x", availabilityWindows := [{ start := 0, stop := 5 }] }

def dueRegistry : ActorRegistry := ({} : ActorRegistry).add dueActor

theorem pending_due {id : TaskId} (h : Pending dueWorkflow {} id) : id = "a" ∨ id = "b" := by
  obtain ⟨task, htask, rfl⟩ := (pending_iff (by decide) id).mp h
  have hids : ∀ task ∈ collectPendingTasks dueWorkflow {}, task.info.id = "a" ∨
      task.info.id = "b" := by decide
  exact hids task htask

theorem batch_due : Batch dueWorkflow {} 0 := by
  apply Batch.of_rows (le_refl _) (by decide) (by decide)
  intro id hid
  rcases pending_due hid with rfl | rfl <;> decide

theorem dedicated_due : Dedicated dueWorkflow {} dueRegistry 0 (fun _ => "x") fun _ => 0 := by
  have hactor : ∀ actor, dueRegistry.get "x" = some actor → actor = dueActor := fun actor hget =>
    (Option.some.inj hget).symm
  refine ⟨?_, fun _ _ => le_refl _, ?_, ?_⟩
  · intro id _ actorId actor hget _ _
    have hids : ∀ actorId ∈ dueRegistry.actorIds, actorId = "x" := by decide
    exact hids actorId (mem_actorIds hget)
  · intro id _ actor hget
    obtain rfl := hactor actor hget
    apply OneAtATime.of_idle
    · intro instant _
      have hload : baselineLoad dueRegistry {} "x" = 0 := by decide
      simp [reservedDemandAt, inFlightDemandAt, hload]
    · intro id hid
      rcases pending_due hid with rfl | rfl <;> decide
  · intro id _ actor hget
    obtain rfl := hactor actor hget
    exact ⟨_, rfl, le_refl _⟩

theorem agreeable_due : Agreeable dueWorkflow {} fun _ => "x" where
  priorities a ha b hb _ hless := by
    have hequal : ∀ task ∈ collectPendingTasks dueWorkflow {}, task.info.priority = 0 := by decide
    rw [hequal a ha, hequal b hb] at hless
    exact absurd hless (lt_irrefl _)
  latestStarts id _ process hprocess latest hlatest := by
    have hrows : ∀ process ∈ dueWorkflow.processes.rows, process.latestStartTime = none := by decide
    rw [hrows process (Workflow.mem_rows_of_processForTask hprocess)] at hlatest
    exact absurd hlatest (by simp)

/-- The other order misses the deadline. -/
theorem edf_complete_iff_due :
    (plan insertionOrder dueWorkflow {} dueRegistry 0 none none).assignments =
      [⟨"b", "x", 0⟩, ⟨"a", "x", 2⟩] ∧
      ∃ other, Feasible dueWorkflow {} dueRegistry 0 other ∧ Complete dueWorkflow {} other := by
  have hplan : (plan insertionOrder dueWorkflow {} dueRegistry 0 none none).assignments =
      [⟨"b", "x", 0⟩, ⟨"a", "x", 2⟩] := by decide
  refine ⟨hplan, (edf_complete_iff insertionOrder dueWorkflow {} dueRegistry 0 none none
    (fun _ => "x") (fun _ => 0)
    batch_due dedicated_due agreeable_due (ShippedStrategy.sortsBy_stable .edf)).mp ?_⟩
  rw [hplan]
  intro id hid
  rcases pending_due hid with rfl | rfl
  · exact ⟨⟨"a", "x", 2⟩, by simp, rfl⟩
  · exact ⟨⟨"b", "x", 0⟩, by simp, rfl⟩

end TaskOrchestrator.Core
