import TaskOrchestrator.Core.PlanningTurns
import TaskOrchestrator.Optimizer.Exactness
import TaskOrchestrator.Optimizer.FormulationExactness

/-!
# One declaration of a mutual exclusion, three engines

Two tasks exclude each other as soon as one of them lists the other. The discrete-time
formulation reads a declaration as an unordered pair and enforces it so. The runtime scheduler
and the indexed exact search look at the lists of the task that they are about to place, so they
enforce a declaration unless the task that does not make it comes second and finds a place. Whatever
else the input is, they do so exactly when both tasks make it.
-/

namespace TaskOrchestrator.Optimizer

open Library
open TaskOrchestrator.Core hiding earliestStart earliestStart_sound

set_option autoImplicit false

/-- Whatever the input, with these lists of the two tasks no plan has both, and none has one
while the other is completed or in flight. -/
def SchedulerExcludes (a b : TaskId) (listA listB : List TaskId) : Prop :=
  ∀ (hash : IterationOrder) (workflow : Workflow) (state : WorkflowState) (registry : ActorRegistry)
    (now : Time) (strategy : Option SchedulingStrategy) (profile : Option ActorRankingProfile),
    excludedBy workflow a = listA → excludedBy workflow b = listB →
      PlanKeepsApart hash workflow state registry now strategy profile a b

theorem schedulerExcludes_of_listed {a b : TaskId} (hne : a ≠ b) {listA listB : List TaskId}
    (hab : b ∈ listA) (hba : a ∈ listB) : SchedulerExcludes a b listA listB := by
  rintro hash workflow state registry now strategy profile rfl rfl
  refine ⟨?_, ?_, ?_⟩
  · rintro ⟨⟨x, hx, rfl⟩, y, hy, rfl⟩
    exact plan_lists_one_way hx hy hne hab hba
  · rintro ⟨⟨x, hx, rfl⟩, htaken⟩
    exact plan_lists_none_taken hx htaken hab
  · rintro ⟨⟨y, hy, rfl⟩, htaken⟩
    exact plan_lists_none_taken hy htaken hba

theorem plan_single {workflow : Workflow} {state : WorkflowState} {registry : ActorRegistry}
    {now : Time} {task : PendingTask} {selection : CandidateSelection}
    (hpending : collectPendingTasks workflow state = [task])
    (hsupported : task.process.any Process.preemptible = false)
    (hfree : mutexConflict task (state.completedTasks ++ state.assignedTasks) = false)
    (hready : (dependencyReadyTime task (initializeCompletionTimes workflow state now)).isSome =
      true)
    (hselection : selectBestCandidate registry state now (effectiveRankingProfile none) task
      (initializeActorReservations workflow registry state now)
      (initializeCompletionTimes workflow state now) = some selection) :
    (plan insertionOrder workflow state registry now none none).assignments =
      [assignmentOf task selection.candidate] := by
  have hone : collectReadyTasks insertionOrder none [task] 0
      (initialPlanState workflow state registry now [task]) =
      [task] := by
    have hself : pendingById [task] task.info.id = some task := by simp [pendingById]
    have horder : orderReadyTasks none [task] = [task] := List.perm_singleton.mp (perm_sortBy _ _)
    have hfilter : (([task.info.id].filterMap (pendingById [task])).filter fun other =>
        !mutexConflict other (initialPlanState workflow state registry now [task]).blockedTaskIds &&
          (dependencyReadyTime other
            (initialPlanState workflow state registry now [task]).completionTimes).isSome) =
            [task] := by
      rw [List.filterMap_cons, hself]
      dsimp only [initialPlanState, List.filterMap_nil]
      rw [List.filter_cons, hfree, hready]
      rfl
    have hremaining : insertionOrder.order 0
        (initialPlanState workflow state registry now [task]).remainingTaskIds =
        [task.info.id] := rfl
    rw [collectReadyTasks, hremaining, hfilter, horder]
  have hplaced : [task].foldl (planTask registry state now (effectiveRankingProfile none))
      (initialPlanState workflow state registry now [task], false) =
        ((initialPlanState workflow state registry now [task]).place task selection, true) := by
    have hmem : task.info.id ∈
        (initialPlanState workflow state registry now [task]).remainingTaskIds := by
      simp [initialPlanState]
    rw [List.foldl_cons, List.foldl_nil, planTask]
    rw [if_neg (not_not.mpr hmem)]
    change (if mutexConflict task (state.completedTasks ++ state.assignedTasks) then _ else _) = _
    rw [hfree, if_neg Bool.false_ne_true]
    have hbest : selectBestCandidate registry state now (effectiveRankingProfile none) task
        (initialPlanState workflow state registry now [task]).reservations
        (initialPlanState workflow state registry now [task]).completionTimes = some selection :=
          hselection
    rw [hbest]
  have hvalid : validateSupportedTasks [task] = none := by simp [validateSupportedTasks, hsupported]
  have hfuel : (initialPlanState workflow state registry now [task]).remainingTaskIds =
      [task.info.id] := rfl
  rw [plan]
  simp only [hpending, hvalid, List.isEmpty_cons, Bool.false_eq_true, if_false, hfuel,
    List.length_singleton, planRounds, hone, hplaced, if_true]
  rw [if_neg (List.cons_ne_nil _ _)]
  exact List.perm_singleton.mp (perm_sortBy _ _)

/-- The first task is known, the second one is to be planned. -/
def successionWorkflow (a b : TaskId) (listA listB : List TaskId) : Workflow :=
  ((({} : Workflow).addPhase { id := "phase", processIds := [b] }).addProcess
    { id := a, mutuallyExclusiveTaskIds := listA }).addProcess
      { id := b, mutuallyExclusiveTaskIds := listB }

section Succession

variable {a b : TaskId} (hne : a ≠ b) (listA listB : List TaskId)

include hne in
theorem succession_processes :
    (successionWorkflow a b listA listB).process a =
      some { id := a, mutuallyExclusiveTaskIds := listA } ∧
      (successionWorkflow a b listA listB).process b =
        some { id := b, mutuallyExclusiveTaskIds := listB } := by
  have hrows : (successionWorkflow a b listA listB).processes.rows =
      [{ id := a, mutuallyExclusiveTaskIds := listA },
        { id := b, mutuallyExclusiveTaskIds := listB }] := by
    simp [successionWorkflow, Workflow.addProcess, Workflow.addPhase, KeyedRows.put,
      KeyedRows.putRows, KeyedRows.empty, hne.symm]
  constructor
  · simp [Workflow.process, KeyedRows.get?, hrows]
  · simp [Workflow.process, KeyedRows.get?, hrows, hne]

include hne in
theorem succession_assigns (hnot : a ∉ listB) :
    ∃ x ∈ (plan insertionOrder (successionWorkflow a b listA listB) { completedTasks := [a] }
      (({} : ActorRegistry).add { id := "x" }) 0 none none).assignments, x.taskId = b := by
  obtain ⟨-, hprocess⟩ := succession_processes hne listA listB
  have hfor : (successionWorkflow a b listA listB).processForTask b =
      some { id := b, mutuallyExclusiveTaskIds := listB } := by
    simp [Workflow.processForTask, hprocess]
  have hpending : collectPendingTasks (successionWorkflow a b listA listB)
      { completedTasks := [a] } = [pendingTask (successionWorkflow a b listA listB) "phase" b] := by
    have hphases : (successionWorkflow a b listA listB).readyPhases [] = ["phase"] := rfl
    have hphase : (successionWorkflow a b listA listB).phase "phase" =
        some { id := "phase", processIds := [b] } := rfl
    simp [collectPendingTasks, hphases, hphase, Workflow.taskIdsForPhase, hprocess, Process.taskIds,
      skippedByPlanning, hne.symm]
  have hfree : mutexConflict (pendingTask (successionWorkflow a b listA listB) "phase" b) [a] =
      false := by
    simp only [mutexConflict, pendingTask, hfor, Option.any_some, List.any_eq_false,
      decide_eq_true_eq, List.mem_singleton]
    rintro other hother rfl
    exact hnot hother
  obtain ⟨selection, hselection⟩ :
      ∃ selection, selectBestCandidate (({} : ActorRegistry).add { id := "x" })
      { completedTasks := [a] } 0 (effectiveRankingProfile none)
      (pendingTask (successionWorkflow a b listA listB) "phase" b)
      (initializeActorReservations (successionWorkflow a b listA listB)
        (({} : ActorRegistry).add { id := "x" }) { completedTasks := [a] } 0)
      (initializeCompletionTimes (successionWorkflow a b listA listB) { completedTasks := [a] } 0) =
        some selection := by
    have hids : (({} : ActorRegistry).add { id := "x" }).actorIds = ["x"] := by decide
    have hget : (({} : ActorRegistry).add { id := "x" }).get "x" = some { id := "x" } := rfl
    have hcandidate : ∀ (reservations : ReservationTable) (release : Time), ∃ candidate,
        actorCandidate (({} : ActorRegistry).add { id := "x" }) { completedTasks := [a] }
          (pendingTask (successionWorkflow a b listA listB) "phase" b) reservations release "x" =
            some candidate := by
      intro reservations release
      simp [actorCandidate, hget, actorIsAllowed, effectiveAllowedActors, effectiveActors,
        actorMatchesTypeConstraints, actorSupportsRequiredCapabilities, effectiveLatestStartTime,
        Core.earliestStart, pendingTask, hfor, durationOf, demandOf]
    have hready : dependencyReadyTime (pendingTask (successionWorkflow a b listA listB) "phase" b)
        (initializeCompletionTimes (successionWorkflow a b listA listB)
          { completedTasks := [a] } 0) = some 0 := by
      simp [dependencyReadyTime, pendingTask, hfor]
    simp only [selectBestCandidate, hready, hids, List.foldl_cons, List.foldl_nil, considerActor]
    obtain ⟨candidate, heq⟩ := hcandidate _ _
    exact ⟨_, by rw [heq]⟩
  have hplan := plan_single hpending (by simp [pendingTask, hfor]) hfree
    (by simp [dependencyReadyTime, pendingTask, hfor]) hselection
  exact ⟨_, hplan ▸ List.mem_singleton_self _, rfl⟩

include hne in
theorem listed_of_schedulerExcludes (h : SchedulerExcludes a b listA listB) : a ∈ listB := by
  by_contra hnot
  obtain ⟨hfirst, hsecond⟩ := succession_processes hne listA listB
  have hlists := h insertionOrder (successionWorkflow a b listA listB) { completedTasks := [a] }
    (({} : ActorRegistry).add { id := "x" }) 0 none none
      (by simp [excludedBy, Workflow.processForTask, hfirst])
    (by simp [excludedBy, Workflow.processForTask, hsecond])
  exact hlists.2.2 ⟨succession_assigns hne listA listB hnot, Or.inl (by simp)⟩

end Succession

def SolutionKeepsApart (model : OptimizationModel) (options : OptimizationOptions)
    (a b : TaskId) : Prop :=
  let assigned :=
    fun id => ∃ x ∈ (solve model (ConstraintIndex.build model) options).assignments, x.taskId = id
  ¬(assigned a ∧ assigned b)

/-- Where the search, at a node that it does not cut, takes up `b` with `a` scheduled, `b` lists a
task that is scheduled or no actor can take it. -/
def BarredInSearch (model : OptimizationModel) (options : OptimizationOptions)
    (a b : TaskId) : Prop :=
  ∀ state incumbent,
    (searchTree model (ConstraintIndex.build model) options).Visits (model.tasks.length + 1)
      (rootState model)
      { best := { ok := true, backendName := backendName } } state incumbent →
    (searchTree model (ConstraintIndex.build model) options).cut state incumbent = false →
    ∀ task ∈ (readyTasks model state).head?, task.id = b → a ∈ state.scheduled →
      candidatesForTask task (ConstraintIndex.build model) state = []

theorem barredInSearch_of_visits {model : OptimizationModel} {options : OptimizationOptions}
    {a b : TaskId}
    (h : ∀ visit ∈ (searchTree model (ConstraintIndex.build model) options).visits
      (model.tasks.length + 1) (rootState model)
      { best := { ok := true, backendName := backendName } },
      (searchTree model (ConstraintIndex.build model) options).cut visit.1 visit.2 = false →
      ∀ task ∈ (readyTasks model visit.1).head?, task.id = b → a ∈ visit.1.scheduled →
      candidatesForTask task (ConstraintIndex.build model) visit.1 = []) :
        BarredInSearch model options a b :=
  fun _ _ hvisits => h _ hvisits.mem_visits

theorem scheduled_dropDescendants (model : OptimizationModel) (s : SearchState) :
    (dropDescendantsIfBlocked model s).scheduled = s.scheduled :=
  @dropPasses_keeps model (fun u => u.scheduled = s.scheduled) (fun _ _ _ hu _ _ _ => hu) _ _ rfl

section Search

variable {model : OptimizationModel} {options : OptimizationOptions} {a b : TaskId}

theorem BarredInSearch.apart (hne : a ≠ b) (hlists : ListedBy model a b)
    (hbarred : BarredInSearch model options a b) {state : SearchState} {incumbent : Incumbent}
    (hvisits : (searchTree model (ConstraintIndex.build model) options).Visits
      (model.tasks.length + 1) (rootState model)
      { best := { ok := true, backendName := backendName } } state incumbent) :
    ¬(a ∈ state.scheduled ∧ b ∈ state.scheduled) := by
  refine @TreeSearch.Visits.invariant _ _ _ (fun s => ¬(a ∈ s.scheduled ∧ b ∈ s.scheduled))
    _ _ _ _ _ hvisits ?_ ?_
  · change ¬(a ∈ (dropDescendantsIfBlocked model _).scheduled ∧
      b ∈ (dropDescendantsIfBlocked model _).scheduled)
    rw [scheduled_dropDescendants]
    simp [rootState]
  · rintro s c hs hcut hapart u ⟨nodes, child, hnodes, hchild, rfl⟩
    change ¬(a ∈ (dropDescendantsIfBlocked model child).scheduled ∧
      b ∈ (dropDescendantsIfBlocked model child).scheduled)
    rw [scheduled_dropDescendants]
    cases hready : readyTasks model s with
    | nil =>
      rw [searchTree_children_nil hready] at hnodes
      exact absurd hnodes (by simp)
    | cons task rest =>
      rw [searchTree_children_cons hready] at hnodes
      obtain rfl := Option.some.inj hnodes
      rcases List.mem_append.mp hchild with hplaced | hdropped
      · obtain ⟨candidate, hcandidate, rfl⟩ := List.mem_map.mp hplaced
        have hmem := (isReady_of_mem (hready ▸ List.mem_cons_self : task ∈ readyTasks model s)).mem
        simp only [SearchState.place, List.mem_insert_iff]
        rintro ⟨rfl | ha, rfl | hb⟩
        · exact hne rfl
        · -- The first task comes second, and its list is looked at.
          obtain ⟨hfree, -⟩ := offers_of_mem hcandidate
          rw [mutexBlocked, List.any_eq_false] at hfree
          exact hfree b (hlists task hmem rfl) (decide_eq_true hb)
        · rw [hbarred s c hs hcut task (by rw [hready]; rfl) rfl ha] at hcandidate
          exact absurd hcandidate List.not_mem_nil
        · exact hapart ⟨ha, hb⟩
      · split_ifs at hdropped
        · obtain rfl := List.mem_singleton.mp hdropped
          exact hapart
        · exact absurd hdropped List.not_mem_nil

/-- The search keeps apart two tasks one of which lists the other and of which the other is never
placed second. -/
theorem solutionKeepsApart_of_barred (hne : a ≠ b) (hlists : ListedBy model a b)
    (hbarred : BarredInSearch model options a b) : SolutionKeepsApart model options a b := by
  have hkeeps :
      ¬((∃ x ∈ (finalIncumbent model (ConstraintIndex.build model) options).best.assignments,
        x.taskId = a) ∧
        ∃ x ∈ (finalIncumbent model (ConstraintIndex.build model) options).best.assignments,
          x.taskId = b) := by
    apply TreeSearch.explore_keeps_visited fun incumbent : Incumbent =>
      ¬((∃ x ∈ incumbent.best.assignments, x.taskId = a) ∧ ∃ x ∈ incumbent.best.assignments,
        x.taskId = b)
    · exact fun _ h => h
    · exact fun _ h => h
    · intro state incumbent hvisits _ hincumbent
      have hscheduled :=
        scheduled_kept.below (by simp [SearchState.schedule, rootState]) hvisits.isBelow
      have hapart := hbarred.apart hne hlists hvisits
      rw [hscheduled, hscheduled] at hapart
      dsimp only [searchTree]
      split_ifs
      · exact hapart
      · exact hincumbent
    · simp
  rintro ⟨ha, hb⟩
  rw [solve_eq] at ha hb
  split_ifs at ha hb
  · exact hkeeps ⟨ha, hb⟩
  · exact hkeeps ⟨ha, hb⟩

end Search

/-- Whatever the request, with these lists of the two tasks no solution has both. -/
def IndexedExactExcludes (a b : TaskId) (listA listB : List TaskId) : Prop :=
  ∀ (model : OptimizationModel) (options : OptimizationOptions),
    (∀ task ∈ model.tasks, task.id = a → task.mutuallyExclusiveTaskIds = listA) →
    (∀ task ∈ model.tasks, task.id = b → task.mutuallyExclusiveTaskIds = listB) →
      SolutionKeepsApart model options a b

theorem indexedExactExcludes_of_listed {a b : TaskId} (hne : a ≠ b) {listA listB : List TaskId}
    (hab : b ∈ listA) (hba : a ∈ listB) : IndexedExactExcludes a b listA listB := by
  intro model options hlistA hlistB
  rintro ⟨⟨x, hx, hxId⟩, y, hy, hyId⟩
  refine solve_excludes hne ?_ ?_ hx hy hxId hyId
  · intro task htask hid
    rwa [hlistA task htask hid]
  · intro task htask hid
    rwa [hlistB task htask hid]

/-- The first task is worth more than the second and is tried before it. -/
def successionModel (a b : TaskId) (listA listB : List TaskId) : OptimizationModel where
  actors := [{ id := "x" }]
  tasks :=
    [{ id := a, priority := 1, mutuallyExclusiveTaskIds := listA },
      { id := b, mutuallyExclusiveTaskIds := listB }]

section SearchSuccession

variable {a b : TaskId} (hne : a ≠ b) (listA listB : List TaskId)

theorem dropDescendants_independent {model : OptimizationModel}
    (h : ∀ task ∈ model.tasks, task.dependencyTaskIds = []) (s : SearchState) :
    dropDescendantsIfBlocked model s = s := by
  have hpass : ∀ tasks : List OptimizerTask, (∀ task ∈ tasks, task.dependencyTaskIds = []) →
      tasks.foldl dropIfBlocked (s, false) = (s, false) := by
    intro tasks
    induction tasks with
    | nil => exact fun _ => rfl
    | cons task rest ih =>
      intro htasks
      have hnone : dropIfBlocked (s, false) task = (s, false) := by
        simp [dropIfBlocked, ConstraintIndex.dependencyBlocked, htasks task List.mem_cons_self]
      rw [List.foldl_cons, hnone]
      exact ih fun other hother => htasks other (List.mem_cons_of_mem _ hother)
  rw [dropDescendantsIfBlocked, dropPasses, hpass model.tasks h]
  rfl

include hne in
/-- The search gets to a leaf with both tasks when the second one does not list the first. -/
theorem succession_listSchedule (hnot : a ∉ listB) :
    ∃ state, ListSchedule (successionModel a b listA listB) state ∧
      readyTasks (successionModel a b listA listB) state = [] ∧ state.schedule.length = 2 := by
  have hunique : (successionModel a b listA listB).UniqueIds :=
    ⟨by simpa [successionModel] using hne, List.nodup_singleton _⟩
  have hindependent :=
    @dropDescendants_independent (successionModel a b listA listB) (by simp [successionModel])
  have hcandidate : ∀ task ∈ (successionModel a b listA listB).tasks, ∀ s,
      mutexBlocked task s = false →
      ∃ candidate, candidate ∈ candidatesForTask task
        (ConstraintIndex.build (successionModel a b listA listB)) s := by
    intro task htask s hfree
    have hexists : Allows task { id := "x" } ∧
        ∃ candidate, candidateOn task s { id := "x" } = some candidate := by
      simp only [successionModel, List.mem_cons, List.not_mem_nil, or_false] at htask
      rcases htask with rfl | rfl
      · exact ⟨⟨Or.inl rfl, Or.inl rfl⟩,
          by simp [candidateOn, taskCapabilitiesSupported, earliestStart]⟩
      · exact ⟨⟨Or.inl rfl, Or.inl rfl⟩,
          by simp [candidateOn, taskCapabilitiesSupported, earliestStart]⟩
    obtain ⟨hallows, candidate, hon⟩ := hexists
    exact ⟨candidate, mem_candidatesForTask hunique htask List.mem_cons_self hallows hfree hon⟩
  have hfirst : readyTasks (successionModel a b listA listB)
      (rootState (successionModel a b listA listB)) =
      (successionModel a b listA listB).tasks := by
    have hless : readyTaskLess { id := b, mutuallyExclusiveTaskIds := listB }
        { id := a, priority := 1, mutuallyExclusiveTaskIds := listA } = false := rfl
    simp [readyTasks, successionModel, rootState, ConstraintIndex.dependencyBlocked,
      ConstraintIndex.dependenciesSatisfied, sortBy, hless]
  have hroot : ListSchedule (successionModel a b listA listB)
      (rootState (successionModel a b listA listB)) := by
    rw [← hindependent (rootState _)]
    exact .root
  obtain ⟨first, hfirstCandidate⟩ :=
    hcandidate _ List.mem_cons_self (rootState (successionModel a b listA listB))
    (by simp [mutexBlocked, rootState])
  have hone := hroot.place hfirst hfirstCandidate
  rw [hindependent] at hone
  have hsecond : readyTasks (successionModel a b listA listB)
      ((rootState (successionModel a b listA listB)).place
        { id := a, priority := 1, mutuallyExclusiveTaskIds := listA } first) =
          [{ id := b, mutuallyExclusiveTaskIds := listB }] := by
    simp [readyTasks, successionModel, rootState, SearchState.place,
      ConstraintIndex.dependencyBlocked, ConstraintIndex.dependenciesSatisfied, sortBy, hne.symm]
  have hfree : mutexBlocked { id := b, mutuallyExclusiveTaskIds := listB }
      ((rootState (successionModel a b listA listB)).place
        { id := a, priority := 1, mutuallyExclusiveTaskIds := listA } first) = false := by
    simp only [mutexBlocked, List.any_eq_false, decide_eq_true_eq]
    intro id hid hscheduled
    obtain rfl : id = a := by simpa [rootState, SearchState.place] using hscheduled
    exact hnot hid
  obtain ⟨second, hsecondCandidate⟩ := hcandidate { id := b, mutuallyExclusiveTaskIds := listB }
    (List.mem_cons_of_mem _ List.mem_cons_self) _ hfree
  have htwo := hone.place hsecond hsecondCandidate
  rw [hindependent] at htwo
  refine ⟨_, htwo, ?_, ?_⟩
  · simp [readyTasks, successionModel, rootState, SearchState.place, sortBy]
  · simp [SearchState.schedule, SearchState.place, rootState]

include hne in
theorem listed_of_indexedExactExcludes (h : IndexedExactExcludes a b listA listB) : a ∈ listB := by
  by_contra hnot
  have hunique : (successionModel a b listA listB).UniqueIds :=
    ⟨by simpa [successionModel] using hne, List.nodup_singleton _⟩
  obtain ⟨state, hlist, hnone, hlength⟩ := succession_listSchedule hne listA listB hnot
  have hbound : BoundCovers (successionModel a b listA listB) {} := by
    intro task htask
    simp only [successionModel, List.mem_cons, List.not_mem_nil, or_false] at htask
    rcases htask with rfl | rfl
    · show (1 : Int) * 1000 ≤ 1000000
      decide
    · show (0 : Int) * 1000 ≤ 1000000
      decide
  have hle := listSchedule_le_solution hunique (cutsCovered_of_boundCovers hbound) rfl hlist hnone
  have hboth : (successionModel a b listA listB).tasks.length ≤
      (solve (successionModel a b listA listB)
        (ConstraintIndex.build (successionModel a b listA listB))
        {}).assignments.length := by
    have hfewer := (Prod.Lex.toLex_le_toLex.mp hle).imp le_of_lt fun hsame => le_of_eq hsame.1
    rwa [or_self, hlength] at hfewer
  have hok := (solve_ok_iff (successionModel a b listA listB)
    (ConstraintIndex.build (successionModel a b listA listB)) {}).mpr
    (haveBest_of_allowPartialPlan rfl)
  obtain ⟨final, hfinal, hassignments, -⟩ := solve_state hunique hok
  rw [hassignments] at hboth
  have hall := hfinal.feasible.assignsAll hboth
  refine h (successionModel a b listA listB) {} ?_ ?_ ?_
  · intro task htask hid
    simp only [successionModel, List.mem_cons, List.not_mem_nil, or_false] at htask
    rcases htask with rfl | rfl
    · rfl
    · exact absurd hid hne.symm
  · intro task htask hid
    simp only [successionModel, List.mem_cons, List.not_mem_nil, or_false] at htask
    rcases htask with rfl | rfl
    · exact absurd hid hne
    · rfl
  · rw [hassignments]
    exact ⟨hall _ List.mem_cons_self, hall _ (List.mem_cons_of_mem _ List.mem_cons_self)⟩

end SearchSuccession

def Selects (formulation : DiscreteTimeFormulation) (selection : Nat → Bool)
    (taskId : TaskId) : Prop :=
  ∃ option ∈ formulation.options, selection option.optionIndex = true ∧ option.taskId = taskId

/-- Whatever the request, with these lists of the two tasks no selection that satisfies the
constraints takes options of both. -/
def FormulationExcludes (a b : TaskId) (listA listB : List TaskId) : Prop :=
  ∀ (model : OptimizationModel) (options : OptimizationOptions) (selection : Nat → Bool),
    (model.tasks.map OptimizerTask.id).Nodup →
    (∀ task ∈ model.tasks, task.id = a → task.mutuallyExclusiveTaskIds = listA) →
    (∀ task ∈ model.tasks, task.id = b → task.mutuallyExclusiveTaskIds = listB) →
    Satisfies (formulationOf model options) selection →
    ¬ (Selects (formulationOf model options) selection a ∧
      Selects (formulationOf model options) selection b)

theorem Selects.position {model : OptimizationModel} {options : OptimizationOptions}
    {selection : Nat → Bool} {taskId : TaskId}
    (h : Selects (formulationOf model options) selection taskId) :
    ∃ i task, model.tasks[i]? = some task ∧ task.id = taskId ∧
      0 < (chosenFor model (ConstraintIndex.build model) options selection i).length := by
  obtain ⟨option, hoption, hselected, rfl⟩ := h
  obtain ⟨task, htask, hid⟩ := task_of_option hoption
  refine ⟨option.taskIndex, task, htask, hid.symm,
    List.length_pos_of_mem ((mem_chosenFor selection).mpr ⟨?_, rfl⟩)⟩
  exact List.mem_filter.mpr ⟨hoption, hselected⟩

theorem formulationExcludes_of_listed {a b : TaskId} (hne : a ≠ b) {listA : List TaskId}
    (hab : b ∈ listA) (listB : List TaskId) : FormulationExcludes a b listA listB := by
  intro model options selection hnodup hlistA _ hsatisfies
  rintro ⟨hselectsA, hselectsB⟩
  obtain ⟨i, task, hi, hid, htaken⟩ := hselectsA.position
  obtain ⟨j, other, hj, hother, htakenOther⟩ := hselectsB.position
  have hij : i ≠ j := by
    rintro rfl
    obtain rfl := Option.some.inj (hi.symm.trans hj)
    exact hne (hid.symm.trans hother)
  have hlists : other.id ∈ task.mutuallyExclusiveTaskIds := by
    rwa [hlistA task (List.mem_of_getElem? hi) hid, hother]
  have hlimit := hsatisfies.exclusions ⟨min i j, max i j⟩
    ((mem_mutualExclusions hnodup).mpr ⟨i, j, task, other, hi, hj, hij, hlists, rfl⟩)
  dsimp only at hlimit
  rw [taskSelected_pair hi hj] at hlimit
  omega

/-- A declaration by the first task is enforced by the formulation. The plans that keep it are those
in which the second task gets no place where the first one has one or is taken, and the search keeps
it where the second task is never placed so. Whatever the rest of the input, both keep it exactly
when the second task makes it too. -/
theorem exclusion_enforced_iff {a b : TaskId} (hne : a ≠ b) :
    (∀ hash workflow state registry now strategy profile, b ∈ excludedBy workflow a →
      (PlanKeepsApart hash workflow state registry now strategy profile a b ↔
        BarredThroughout hash workflow state registry now strategy profile a b)) ∧
    (∀ model options, ListedBy model a b → BarredInSearch model options a b →
      SolutionKeepsApart model options a b) ∧ ∀ listA listB, b ∈ listA →
      (SchedulerExcludes a b listA listB ↔ a ∈ listB) ∧ (IndexedExactExcludes a b listA listB ↔
        a ∈ listB) ∧ FormulationExcludes a b listA listB := by
  refine ⟨fun _ _ _ _ _ _ _ => planKeepsApart_iff hne, fun _ _ =>
    solutionKeepsApart_of_barred hne, ?_⟩
  intro listA listB hab
  exact ⟨⟨listed_of_schedulerExcludes hne listA listB, schedulerExcludes_of_listed hne hab⟩,
    ⟨listed_of_indexedExactExcludes hne listA listB, indexedExactExcludes_of_listed hne hab⟩,
    formulationExcludes_of_listed hne hab listB⟩

def secondDeclaresWorkflow : Workflow :=
  ((({} : Workflow).addPhase { id := "phase", processIds := ["a", "b"] }).addProcess
    { id := "a", estimatedDuration := 5, mutuallyExclusiveTaskIds := ["b"] }).addProcess
    { id := "b", estimatedDuration := 5, priority := 1 }

def secondDeclaresModel : OptimizationModel where
  actors := [{ id := "x", availabilityWindows := [{ start := 0, stop := 20 }] }]
  tasks :=
    [{ id := "a", duration := 5, mutuallyExclusiveTaskIds := ["b"] },
      { id := "b", duration := 5, priority := 1 }]

theorem exclusion_enforced_declared_second :
    let registry :=
      ({} : ActorRegistry).add { id := "x", availabilityWindows := [{ start := 0, stop := 20 }] }
    excludedBy secondDeclaresWorkflow "b" = [] ∧
      PlanKeepsApart insertionOrder secondDeclaresWorkflow {} registry 0 none none "a" "b" ∧
      SolutionKeepsApart secondDeclaresModel {} "a" "b" ∧
      SchedulerExcludes "a" "b" ["b"] ["a", "c"] ∧ IndexedExactExcludes "a" "b" ["b"] ["a", "c"] ∧
      FormulationExcludes "a" "b" ["b"] ["a", "c"] := by
  obtain ⟨hplan, hsolution, hlists⟩ := exclusion_enforced_iff (by decide : "a" ≠ "b")
  obtain ⟨hscheduler, hsearch, hformulation⟩ := hlists ["b"] ["a", "c"] (by decide)
  refine ⟨by decide, (hplan _ _ _ _ _ _ _ (by decide)).mpr (by decide),
    hsolution _ _ (by decide) (barredInSearch_of_visits (by decide)), hscheduler.mpr (by decide),
    hsearch.mpr (by decide), hformulation⟩

/-- Two tasks of five units, the first of which lists the second. -/
def oneSidedWorkflow : Workflow :=
  ((({} : Workflow).addPhase { id := "phase", processIds := ["a", "b"] }).addProcess
    { id := "a", estimatedDuration := 5, priority := 1,
      mutuallyExclusiveTaskIds := ["b"] }).addProcess
    { id := "b", estimatedDuration := 5 }

def oneSidedModel : OptimizationModel where
  actors := [{ id := "x", availabilityWindows := [{ start := 0, stop := 20 }] }]
  tasks :=
    [{ id := "a", duration := 5, priority := 1, mutuallyExclusiveTaskIds := ["b"] },
      { id := "b", duration := 5 }]

theorem one_sided_exclusion_ignored :
    let registry :=
      ({} : ActorRegistry).add { id := "x", availabilityWindows := [{ start := 0, stop := 20 }] }
    excludedBy oneSidedWorkflow "a" = ["b"] ∧
      (plan insertionOrder oneSidedWorkflow {} registry 0 none none).assignments.map
        Assignment.taskId = ["a", "b"] ∧
      (plan insertionOrder oneSidedWorkflow
        { completedTasks := ["a"] } registry 5 none none).assignments.map
        Assignment.taskId = ["b"] ∧
      (solve oneSidedModel (ConstraintIndex.build oneSidedModel) {}).assignments =
        [⟨"a", "x", 0, 5⟩, ⟨"b", "x", 5, 10⟩] := by
  refine ⟨by decide, by decide, by decide, by decide⟩

end TaskOrchestrator.Optimizer
