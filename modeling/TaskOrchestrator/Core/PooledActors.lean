import TaskOrchestrator.Core.Batches

/-!
# Pools of interchangeable actors

On actors that any pending task of a batch can go to, one at a time, a profile that ranks by start
or by completion gives each task to the actor that is free first. So no actor is idle while a task
waits, and whatever the strategy, the pass takes less than twice as long as any plan of the tasks.
-/

namespace TaskOrchestrator.Core

open Library

set_option autoImplicit false

section Specification

variable (workflow : Workflow) (state : WorkflowState) (registry : ActorRegistry) (now : Time)

/-- How long all pending tasks take, one after another. -/
def backlog : Duration :=
  (((collectPendingTasks workflow state).map fun task => task.info.id).dedup.map
    (taskDuration workflow)).sum

/-- Every actor of the pool can take each pending task, one at a time, and no other available actor
can take any. There is time for all of them. -/
structure Interchangeable (pool : List ActorId) : Prop where
  nodup : pool.Nodup
  member : ∀ actorId ∈ pool, ∃ actor, registry.get actorId = some actor ∧
    actorId ∉ state.unavailableActors ∧
    (∀ id, Pending workflow state id → Suits workflow state id actor) ∧
    OneAtATime workflow state registry now actorId actor now ∧
    ∃ window ∈ actor.availabilityWindows, window.start ≤ now ∧
      now + backlog workflow state ≤ window.stop
  only : ∀ id, Pending workflow state id → ∀ actorId actor, registry.get actorId = some actor →
    actorId ∉ state.unavailableActors → Suits workflow state id actor → actorId ∈ pool

def Unhurried : Prop :=
  ∀ id, Pending workflow state id → ∀ process ∈ workflow.processForTask id,
    process.deadline = none ∧ process.latestStartTime = none

end Specification

section Pool

variable {workflow : Workflow} {state : WorkflowState} {registry : ActorRegistry} {now : Time}
variable {pool : List ActorId}

theorem sum_le_backlog (hbatch : Batch workflow state now) {ids : List TaskId} (hnodup : ids.Nodup)
    (hids : ∀ id ∈ ids, Pending workflow state id) :
    (ids.map (taskDuration workflow)).sum ≤ backlog workflow state := by
  have hsub : ids ⊆ ((collectPendingTasks workflow state).map fun task => task.info.id).dedup := by
    intro id hid
    obtain ⟨task, htask, rfl⟩ := (pending_iff hbatch.disjoint id).mp (hids id hid)
    exact List.mem_dedup.mpr (List.mem_map_of_mem htask)
  obtain ⟨same, hperm, hsublist⟩ := List.subperm_of_subset hnodup hsub
  rw [← (hperm.map (taskDuration workflow)).sum_eq]
  apply (hsublist.map (taskDuration workflow)).sum_le_sum
  intro d hd
  obtain ⟨id, hid, rfl⟩ := List.mem_map.mp hd
  obtain ⟨task, htask, rfl⟩ := List.mem_map.mp (List.mem_dedup.mp hid)
  exact le_of_lt (hbatch.durations _ ((pending_iff hbatch.disjoint _).mpr ⟨task, htask, rfl⟩))

/-- An actor is free again before all that is assigned would be done one after another. -/
theorem freeFrom_le_sum {plan : List Assignment}
    (hduration : ∀ a ∈ plan, 0 ≤ taskDuration workflow a.taskId) (actorId : ActorId) :
    freeFrom workflow now plan actorId ≤
      now + ((plan.map Assignment.taskId).map (taskDuration workflow)).sum := by
  have hsublist : ((assignedTo actorId plan).map fun a => taskDuration workflow a.taskId).Sublist
      (plan.map fun a => taskDuration workflow a.taskId) := List.filter_sublist.map _
  have hsum := hsublist.sum_le_sum (by
    intro d hd
    obtain ⟨a, ha, rfl⟩ := List.mem_map.mp hd
    exact hduration a ha)
  rw [List.map_map]
  exact add_le_add (le_refl now) hsum

/-- Of two candidates for one task, the one that a profile ranks first by start or completion starts
no later. -/
theorem start_le_of_compare {profile : ActorRankingProfile} {criterion : ActorRankingCriterion}
    {rest : List ActorRankingCriterion} (hcriteria : profile.criteria = criterion :: rest)
    (hcriterion : criterion = .earliestFeasibleStart ∨ criterion = .earliestFeasibleCompletion)
    {lhs rhs : RankedActorCandidate} {duration : Duration}
    (hlhs : lhs.finishTime = lhs.startTime + duration)
    (hrhs : rhs.finishTime = rhs.startTime + duration) (h : profile.compare lhs rhs = .lt) :
    lhs.startTime ≤ rhs.startTime := by
  have hsplit : (criterion.compare lhs rhs).then (compareByCriteria lhs rhs 1 rest).1 = .lt := by
    rw [← compareByCriteria_cons lhs rhs 0 criterion rest, ← hcriteria]
    exact h
  by_contra hlater
  have hafter : rhs.startTime < lhs.startTime := not_le.mp hlater
  have hgt : criterion.compare lhs rhs = .gt := by
    rcases hcriterion with rfl | rfl
    · have hne : lhs.startTime ≠ rhs.startTime := ne_of_gt hafter
      simp only [ActorRankingCriterion.compare, compareOfLessAndEq,
        if_neg (not_lt.mpr (le_of_lt hafter)), if_neg hne]
    · have hfinish : rhs.finishTime < lhs.finishTime := by
        rw [hlhs, hrhs]
        exact add_lt_add_of_lt_of_le hafter (le_refl _)
      have hne : lhs.finishTime ≠ rhs.finishTime := ne_of_gt hfinish
      simp only [ActorRankingCriterion.compare, compareOfLessAndEq,
        if_neg (not_lt.mpr (le_of_lt hfinish)), if_neg hne]
  rw [hgt] at hsplit
  exact absurd hsplit (by simp)

theorem Interchangeable.candidate (h : Interchangeable workflow state registry now pool)
    (hbatch : Batch workflow state now) (hunhurried : Unhurried workflow state) {s : PlanState}
    {taken : List TaskId} {task : PendingTask} (hs : Taken workflow state registry now s taken)
    (hpacked : ∀ actorId, Packed workflow now s.assignments actorId)
    (htask : task ∈ collectPendingTasks workflow state) (hnodup : (taken ++ [task.info.id]).Nodup)
    (hids : ∀ id ∈ taken ++ [task.info.id], Pending workflow state id) {actorId : ActorId}
    (hactorId : actorId ∈ pool) :
    ∃ candidate, FeasibleCandidate registry state now task s.reservations s.completionTimes
      candidate ∧
      candidate.actorId = actorId ∧ candidate.startTime =
        freeFrom workflow now s.assignments actorId := by
  have hpending := (pending_iff hbatch.disjoint task.info.id).mpr ⟨task, htask, rfl⟩
  have hnew : task.info.id ∉ taken := fun hmem =>
    (List.nodup_append.mp hnodup).2.2 _ hmem _ (List.mem_singleton_self _) rfl
  obtain ⟨actor, hactor, havailable, hsuits, hone, window, hwindow, hstart, hstop⟩ :=
    h.member actorId hactorId
  have hid : actor.id = actorId := ActorRegistry.id_of_get hactor
  have hfree : freeFrom workflow now s.assignments actorId + taskDuration workflow task.info.id ≤
      window.stop := by
    have hsum : freeFrom workflow now s.assignments actorId ≤
        now + ((s.assignments.map Assignment.taskId).map (taskDuration workflow)).sum := by
      apply freeFrom_le_sum
      intro a ha
      have hmem : a.taskId ∈ taken := by
        rw [← hs.assigned]
        exact List.mem_map_of_mem ha
      exact le_of_lt (hbatch.durations _ (hids _ (List.mem_append_left _ hmem)))
    have hbacklog := sum_le_backlog hbatch hnodup hids
    rw [List.map_append, List.sum_append, List.map_cons, List.map_nil, List.sum_singleton]
      at hbacklog
    rw [hs.assigned] at hsum
    calc freeFrom workflow now s.assignments actorId + taskDuration workflow task.info.id
        ≤ now + (taken.map (taskDuration workflow)).sum + taskDuration workflow task.info.id :=
          add_le_add hsum (le_refl _)
      _ = now + ((taken.map (taskDuration workflow)).sum + taskDuration workflow task.info.id) :=
        add_assoc _ _ _
      _ ≤ now + backlog workflow state := add_le_add (le_refl _) hbacklog
      _ ≤ window.stop := hstop
  have hearliest :=
    hone.earliestStart_eq hbatch hactor (le_refl _) hs.maximal (hpacked actorId) htask (hs.new hnew)
    (hsuits _ hpending) hwindow
      (hstart.trans (hs.maximal.tables.feasible.opens_le_freeFrom hbatch now actorId)) hfree
  refine ⟨buildCandidate task actor (freeFrom workflow now s.assignments actorId) state
    (reservationsOf s.reservations actor.id), ?_, hid, rfl⟩
  rw [hbatch.feasibleCandidate_iff hs.maximal htask]
  refine ⟨actor, by rw [hid]; exact hactor, by rw [hid]; exact havailable, hsuits _ hpending,
    by rw [hid]; exact hearliest, ⟨?_, ?_⟩, rfl⟩
  · intro process hprocess latest hlatest
    rw [(hunhurried _ hpending process hprocess).2] at hlatest
    exact absurd hlatest (by simp)
  · intro process hprocess deadline hdeadline
    rw [(hunhurried _ hpending process hprocess).1] at hdeadline
    exact absurd hdeadline (by simp)

theorem Interchangeable.selects (h : Interchangeable workflow state registry now pool)
    (hpool : pool ≠ []) (hbatch : Batch workflow state now) (hunhurried : Unhurried workflow state)
    {profile : ActorRankingProfile} {criterion : ActorRankingCriterion}
    {rest : List ActorRankingCriterion} (hcriteria : profile.criteria = criterion :: rest)
    (hcriterion : criterion = .earliestFeasibleStart ∨ criterion = .earliestFeasibleCompletion)
    {s : PlanState} {taken : List TaskId} {task : PendingTask}
    (hs : Taken workflow state registry now s taken)
    (hpacked : ∀ actorId, Packed workflow now s.assignments actorId)
    (htask : task ∈ collectPendingTasks workflow state) (hnodup : (taken ++ [task.info.id]).Nodup)
    (hids : ∀ id ∈ taken ++ [task.info.id], Pending workflow state id) :
    ∃ selection, selectBestCandidate registry state now profile task s.reservations
      s.completionTimes = some selection ∧
      selection.candidate.actorId ∈ pool ∧
      selection.candidate.startTime =
        freeFrom workflow now s.assignments selection.candidate.actorId ∧
      ∀ other ∈ pool, freeFrom workflow now s.assignments selection.candidate.actorId ≤
        freeFrom workflow now s.assignments other := by
  have hpending := hids _ (List.mem_append_right _ (List.mem_singleton_self _))
  have hoffers : ∀ actorId ∈ pool, ∃ candidate,
      FeasibleCandidate registry state now task s.reservations s.completionTimes candidate ∧
        candidate.actorId = actorId ∧ candidate.startTime =
          freeFrom workflow now s.assignments actorId :=
    fun actorId hactorId => h.candidate hbatch hunhurried hs hpacked htask hnodup hids hactorId
  have hfinish : ∀ candidate,
      FeasibleCandidate registry state now task s.reservations s.completionTimes candidate →
      candidate.actorId ∈ pool ∧ candidate.finishTime =
        candidate.startTime + task.info.duration := by
    intro candidate hcandidate
    obtain ⟨actor, hactor, havailable, hsuits, -, -, hbuilt⟩ :=
      (hbatch.feasibleCandidate_iff hs.maximal htask).mp hcandidate
    rw [hbuilt]
    exact ⟨h.only _ hpending _ actor hactor havailable hsuits, rfl⟩
  -- What an actor offers is determined by the actor.
  have hstart : ∀ candidate,
      FeasibleCandidate registry state now task s.reservations s.completionTimes candidate →
      candidate.startTime = freeFrom workflow now s.assignments candidate.actorId := by
    intro candidate hcandidate
    obtain ⟨other, hother, hsame, hfree⟩ := hoffers _ (hfinish candidate hcandidate).1
    obtain ⟨actor, hactor, -, -, hearliest, -, hbuilt⟩ :=
      (hbatch.feasibleCandidate_iff hs.maximal htask).mp hcandidate
    obtain ⟨own, hown, -, -, hownEarliest, -, hownBuilt⟩ :=
      (hbatch.feasibleCandidate_iff hs.maximal htask).mp hother
    have hid : own.id = actor.id := by
      rw [hbuilt, hownBuilt] at hsame
      exact hsame
    rw [hid] at hown
    obtain rfl := Option.some.inj (hactor.symm.trans hown)
    rw [← hfree]
    exact Option.some.inj (hearliest.symm.trans hownEarliest)
  obtain ⟨any, hany⟩ := List.exists_mem_of_ne_nil pool hpool
  obtain ⟨candidate, hcandidate, -⟩ := hoffers any hany
  obtain ⟨selection, hselection, hfirst⟩ := exists_selection profile hcandidate
  refine ⟨selection, hselection, (hfinish _ hfirst.mem).1, hstart _ hfirst.mem, ?_⟩
  intro actorId hactorId
  obtain ⟨other, hother, -, hfree⟩ := hoffers actorId hactorId
  rw [← hstart _ hfirst.mem, ← hfree]
  by_cases heq : other = selection.candidate
  · rw [heq]
  · have hless := hfirst.lt other hother heq
    exact start_le_of_compare hcriteria hcriterion (hfinish _ hfirst.mem).2
      (hfinish _ hother).2 hless

theorem perm_assignmentFor {plan : List Assignment}
    (hplan : Feasible workflow state registry now plan) {assignmentFor : TaskId → Assignment}
    (hfor : ∀ id, Pending workflow state id →
      assignmentFor id ∈ plan ∧ (assignmentFor id).taskId = id)
    {ids : List TaskId} (hnodup : ids.Nodup) (hids : ∀ id, id ∈ ids ↔ Pending workflow state id) :
    (ids.map assignmentFor).Perm plan := by
  have htasks : (ids.map assignmentFor).map Assignment.taskId = ids := by
    rw [List.map_map]
    exact (List.map_congr_left fun id hid => (hfor id ((hids id).mp hid)).2).trans (List.map_id ids)
  have hmapNodup : (ids.map assignmentFor).Nodup := by
    apply List.Nodup.of_map Assignment.taskId
    rw [htasks]
    exact hnodup
  refine (List.perm_ext_iff_of_nodup hmapNodup hplan.nodup).mpr fun a => ⟨?_, ?_⟩
  · intro ha
    obtain ⟨id, hid, rfl⟩ := List.mem_map.mp ha
    exact (hfor id ((hids id).mp hid)).1
  · intro ha
    obtain ⟨actor, -, hadmissible⟩ := hplan.admissible a ha
    have hpending := pending_of_admissible hadmissible
    obtain ⟨hmem, hsame⟩ := hfor _ hpending
    have heq : assignmentFor a.taskId = a := List.inj_on_of_nodup_map hplan.unique hmem ha hsame
    exact List.mem_map.mpr ⟨a.taskId, (hids _).mpr hpending, heq⟩

theorem Interchangeable.exists_timetable (h : Interchangeable workflow state registry now pool)
    (hbatch : Batch workflow state now) {plan : List Assignment}
    (hplan : Feasible workflow state registry now plan) (hcomplete : Complete workflow state plan)
    {ids : List TaskId} (hnodup : ids.Nodup) (hids : ∀ id, id ∈ ids ↔ Pending workflow state id) :
    ∃ assignmentFor : TaskId → Assignment, (ids.map assignmentFor).Perm plan ∧
      (∀ id ∈ ids, assignmentFor id ∈ plan ∧ (assignmentFor id).taskId = id ∧
        (assignmentFor id).actorId ∈ pool) ∧
      (timetable workflow assignmentFor).Serial (fun _ => now) ids.toFinset := by
  obtain ⟨assignmentFor, hfor⟩ := hcomplete.exists_assignmentFor
  have hpooled : ∀ a ∈ plan, a.actorId ∈ pool := by
    intro a ha
    obtain ⟨actor, hactor, hadmissible⟩ := hplan.admissible a ha
    exact h.only _ (pending_of_admissible hadmissible) _ actor hactor hadmissible.available
      hadmissible.suits
  refine ⟨assignmentFor, perm_assignmentFor hplan hfor hnodup hids, fun id hid => ?_, ?_⟩
  · obtain ⟨hmem, hsame⟩ := hfor id ((hids id).mp hid)
    exact ⟨hmem, hsame, hpooled _ hmem⟩
  · refine hplan.serial hbatch ?_ hfor fun id hid => (hids id).mp (List.mem_toFinset.mp hid)
    intro a ha actor hactor
    obtain ⟨own, hown, -, -, hone, -⟩ := h.member _ (hpooled a ha)
    obtain rfl := Option.some.inj (hactor.symm.trans hown)
    exact hone

end Pool

section AnyOrder

variable {workflow : Workflow} {state : WorkflowState} {registry : ActorRegistry} {now : Time}
variable {pool : List ActorId}

theorem sum_freeFrom (now : Time) {plan : List Assignment} (hplan : ∀ a ∈ plan, a.actorId ∈ pool) :
    ∑ actorId ∈ pool.toFinset, freeFrom workflow now plan actorId =
      pool.toFinset.card * now + (plan.map fun a => taskDuration workflow a.taskId).sum := by
  induction plan using List.reverseRecOn with
  | nil => simp [freeFrom, assignedTo]
  | append_singleton plan a ih =>
    have hlast : a.actorId ∈ pool.toFinset := List.mem_toFinset.mpr (hplan a (by simp))
    have hrest := ih fun b hb => hplan b (List.mem_append_left _ hb)
    simp only [freeFrom_append, Finset.sum_add_distrib, Finset.sum_ite_eq, hlast, if_true, hrest,
      List.map_append, List.sum_append, List.map_cons, List.map_nil, List.sum_singleton]
    exact add_assoc _ _ _

/-- Up to here no actor of the pool has been idle: nothing starts later than the work of the others,
shared out among the pool. -/
structure Busy (workflow : Workflow) (now : Time) (pool : List ActorId) (s : PlanState)
    (taken : List TaskId) :
    Prop where
  packed : ∀ actorId, Packed workflow now s.assignments actorId
  pooled : ∀ a ∈ s.assignments, a.actorId ∈ pool
  shared : ∀ a ∈ s.assignments, pool.toFinset.card * a.startTime + taskDuration workflow a.taskId ≤
    pool.toFinset.card * now + (taken.map (taskDuration workflow)).sum

theorem Busy.initial (workflow : Workflow) (now : Time) (pool : List ActorId) {s : PlanState}
    (h : s.assignments = []) :
    Busy workflow now pool s [] where
  packed actorId := by
    rw [h]
    exact .nil now actorId
  pooled a ha := absurd (h ▸ ha) List.not_mem_nil
  shared a ha := absurd (h ▸ ha) List.not_mem_nil

theorem Busy.append {s : PlanState} {taken : List TaskId} (h : Busy workflow now pool s taken)
    (hassigned : s.assignments.map Assignment.taskId = taken) {task : PendingTask}
    {selection : CandidateSelection} (hduration : 0 < taskDuration workflow task.info.id)
    (hpool : selection.candidate.actorId ∈ pool)
    (hstart : selection.candidate.startTime =
      freeFrom workflow now s.assignments selection.candidate.actorId)
    (hfirst : ∀ other ∈ pool, freeFrom workflow now s.assignments selection.candidate.actorId ≤
      freeFrom workflow now s.assignments other) :
    Busy workflow now pool (s.place task selection) (taken ++ [task.info.id]) := by
  have hsum : ((taken ++ [task.info.id]).map (taskDuration workflow)).sum =
      (taken.map (taskDuration workflow)).sum + taskDuration workflow task.info.id := by simp
  refine ⟨fun actorId => ?_, fun a ha => ?_, fun a ha => ?_⟩
  · apply (h.packed actorId).append hduration
    rintro rfl
    exact hstart
  · rcases List.mem_append.mp ha with ha | ha
    · exact h.pooled a ha
    · rw [List.mem_singleton.mp ha]
      exact hpool
  · rw [hsum]
    rcases List.mem_append.mp ha with ha | ha
    · exact (h.shared a ha).trans
        (add_le_add (le_refl _) (le_add_of_nonneg_right (le_of_lt hduration)))
    · -- The actor is free no later than the others, so no later than the average.
      have haverage : pool.toFinset.card • freeFrom workflow now s.assignments
          selection.candidate.actorId ≤
          ∑ actorId ∈ pool.toFinset, freeFrom workflow now s.assignments actorId :=
        Finset.card_nsmul_le_sum _ _ _ fun other hother =>
          hfirst other (List.mem_toFinset.mp hother)
      rw [sum_freeFrom now h.pooled, nsmul_eq_mul, ← hstart] at haverage
      have hdurations : (s.assignments.map fun a => taskDuration workflow a.taskId).sum =
          (taken.map (taskDuration workflow)).sum := by
        rw [← hassigned, List.map_map]
        rfl
      rw [hdurations] at haverage
      rw [List.mem_singleton.mp ha, ← add_assoc]
      exact add_le_add haverage (le_refl _)

end AnyOrder

/-- On interchangeable actors and without deadlines a pass assigns all pending tasks of a batch,
whatever the strategy, and takes less than twice as long as the best plan: with `m` actors, at most
`2 m - 1` times an `m`-th of the time in which any feasible plan has all of them done. -/
theorem makespan_le_of_any_order (hash : IterationOrder) (workflow : Workflow)
    (state : WorkflowState) (registry : ActorRegistry) (now : Time)
    (strategy : Option SchedulingStrategy) (rankingProfile : Option ActorRankingProfile)
    (pool : List ActorId) (hpool : pool ≠ []) (hbatch : Batch workflow state now)
    (hinterchangeable : Interchangeable workflow state registry now pool)
    (hunhurried : Unhurried workflow state) {criterion : ActorRankingCriterion}
    {rest : List ActorRankingCriterion}
    (hcriteria : (effectiveRankingProfile rankingProfile).criteria = criterion :: rest)
    (hcriterion : criterion = .earliestFeasibleStart ∨ criterion = .earliestFeasibleCompletion) :
    let assignments := (plan hash workflow state registry now strategy rankingProfile).assignments
    Complete workflow state assignments ∧
      ∀ other bound, Feasible workflow state registry now other → Complete workflow state other →
        (∀ b ∈ other, b.startTime + taskDuration workflow b.taskId ≤ bound) →
        ∀ a ∈ assignments, pool.length * (a.startTime + taskDuration workflow a.taskId - now) ≤
          (2 * pool.length - 1) * (bound - now) := by
  intro assignments
  have hstrategy : (strategy.getD edfStrategy).SortsBy fun _ _ => false := fun tasks =>
    List.pairwise_of_forall fun _ _ => rfl
  obtain ⟨tasks, htasks, hnodup, hmem, -, hperm⟩ :=
    hbatch.plan_eq_round registry hash hstrategy rankingProfile
  have hround :=
    Taken.round (effectiveRankingProfile rankingProfile) hbatch (Busy workflow now pool) hnodup
    (fun s taken task hs hbusy htask hfront => by
      have hids : ∀ id ∈ taken ++ [task.info.id], Pending workflow state id := fun id hid =>
        (hmem id).mp (hfront.subset hid)
      obtain ⟨selection, hselection, hchosen, hstart, hfirst⟩ :=
        hinterchangeable.selects hpool hbatch hunhurried
        hcriteria hcriterion hs hbusy.packed htask (hfront.sublist.nodup hnodup) hids
      exact ⟨selection, hselection,
        hbusy.append hs.assigned (hbatch.durations _ (hids _ (by simp))) hchosen hstart hfirst⟩)
    htasks (List.nil_append _) (Taken.initial hbatch registry)
      (.initial workflow now pool rfl) false
  obtain ⟨htaken, hbusy⟩ := hround
  refine ⟨(htaken.complete fun id => (hmem id).mpr).perm hperm.symm,
    fun other bound hfeasible hcomplete hbound a ha => ?_⟩
  obtain ⟨assignmentFor, -, hfor, hserial⟩ :=
    hinterchangeable.exists_timetable hbatch hfeasible hcomplete hnodup hmem
  have hstop : ∀ id ∈ (tasks.map fun task => task.info.id).toFinset,
      (timetable workflow assignmentFor).stop id ≤ bound := by
    intro id hid
    obtain ⟨hassigned, hsame, -⟩ := hfor id (List.mem_toFinset.mp hid)
    have hfinish := hbound _ hassigned
    rw [hsame] at hfinish
    exact hfinish
  have hplaced := hperm.mem_iff.mp ha
  have hid : a.taskId ∈ (tasks.map fun task => task.info.id).toFinset := by
    rw [List.mem_toFinset, ← htaken.assigned]
    exact List.mem_map_of_mem hplaced
  -- The other plan has to do the task itself, and all tasks on the pool.
  have hduration : taskDuration workflow a.taskId ≤ bound - now := by
    have hafter := hserial.after _ hid
    have hbefore := hstop _ hid
    unfold Timetable.stop at hbefore
    exact le_sub_iff_add_le'.mpr ((add_le_add hafter (le_refl _)).trans hbefore)
  have hopens : now ≤ bound :=
    sub_nonneg.mp (le_trans (le_of_lt (hserial.positive _ hid)) hduration)
  have htotal := hserial.sum_duration_le pool.toFinset
    (fun id hid => List.mem_toFinset.mpr (hfor id (List.mem_toFinset.mp hid)).2.2) hopens hstop
  have hshared := hbusy.shared a hplaced
  rw [List.sum_toFinset _ hnodup] at htotal
  rw [List.toFinset_card_of_nodup hinterchangeable.nodup] at htotal hshared
  exact Timetable.finish_le_of_shared (Int.ofNat_le.mpr (List.length_pos_iff.mpr hpool)) hshared
    htotal hduration

/-- Three tasks for two actors. -/
def shiftWorkflow : Workflow :=
  (((({} : Workflow).addPhase { id := "phase", processIds := ["a", "b", "c"] }).addProcess
    { id := "a", estimatedDuration := 3 }).addProcess
      { id := "b", estimatedDuration := 1 }).addProcess
    { id := "c", estimatedDuration := 2 }

def shiftActor (actorId : ActorId) : Actor :=
  { id := actorId, availabilityWindows := [{ start := 0, stop := 9 }] }

def shiftRegistry : ActorRegistry :=
  (({} : ActorRegistry).add (shiftActor "x")).add (shiftActor "y")

theorem pending_shift {id : TaskId} (h : Pending shiftWorkflow {} id) : id ∈ ["a", "b", "c"] := by
  obtain ⟨task, htask, rfl⟩ := (pending_iff (by decide) id).mp h
  have hids : ∀ task ∈ collectPendingTasks shiftWorkflow {}, task.info.id ∈ ["a", "b", "c"] := by
    decide
  exact hids task htask

theorem batch_shift : Batch shiftWorkflow {} 0 := by
  have htimes : ∀ id ∈ ["a", "b", "c"], 0 < taskDuration shiftWorkflow id ∧
      releaseTime shiftWorkflow {} id ≤ 0 := by
    decide
  exact Batch.of_rows (le_refl _) (by decide) (by decide) fun id hid =>
    htimes id (pending_shift hid)

theorem unhurried_shift : Unhurried shiftWorkflow {} := by
  have hrows : ∀ process ∈ shiftWorkflow.processes.rows, process.deadline = none ∧
      process.latestStartTime = none := by
    decide
  exact fun _ _ process hprocess => hrows process (Workflow.mem_rows_of_processForTask hprocess)

theorem interchangeable_shift : Interchangeable shiftWorkflow {} shiftRegistry 0 ["x", "y"] := by
  have hdemand : ∀ id ∈ ["a", "b", "c"], taskDemand shiftWorkflow id = 1 := by decide
  have hrows : ∀ process ∈ shiftWorkflow.processes.rows, process.allowedActorTypes = [] ∧
      process.requiredCapabilities = [] := by decide
  have hload : ∀ actorId ∈ ["x", "y"], baselineLoad shiftRegistry {} actorId = 0 := by decide
  have hactors : ∀ actorId ∈ ["x", "y"], shiftRegistry.get actorId = some (shiftActor actorId) := by
    intro actorId hactorId
    simp only [List.mem_cons, List.not_mem_nil, or_false] at hactorId
    rcases hactorId with rfl | rfl <;> rfl
  have hcapacity : ∀ actorId, (shiftActor actorId).capacity = 1 := fun _ => rfl
  refine ⟨by decide, ?_, ?_⟩
  · intro actorId hactorId
    refine ⟨shiftActor actorId, hactors actorId hactorId, List.not_mem_nil, ?_, ?_, ⟨0, 9⟩,
      List.mem_singleton_self _, le_refl _, by decide⟩
    · intro id hid
      have hfree : ∀ id ∈ ["a", "b", "c"], allowList shiftWorkflow {} id = [] := by decide
      refine ⟨Or.inl (hfree id (pending_shift hid)), ?_, ?_, ?_⟩
      · exact fun process hprocess =>
          Or.inl (hrows process (Workflow.mem_rows_of_processForTask hprocess)).1
      · intro process hprocess capability hcapability
        rw [(hrows process (Workflow.mem_rows_of_processForTask hprocess)).2] at hcapability
        exact absurd hcapability List.not_mem_nil
      · rw [hdemand id (pending_shift hid), hcapacity]
    · apply OneAtATime.of_idle
      · intro instant _
        simp [reservedDemandAt, inFlightDemandAt, hload actorId hactorId]
      · intro id hid
        rw [hdemand id (pending_shift hid), hcapacity]
        decide
  · intro id _ actorId actor hget _ _
    have hids : ∀ actorId ∈ shiftRegistry.actorIds, actorId ∈ ["x", "y"] := by decide
    exact hids actorId (mem_actorIds hget)

theorem makespan_le_of_any_order_shift :
    (plan insertionOrder shiftWorkflow {} shiftRegistry 0 none none).assignments =
        [⟨"a", "x", 0⟩, ⟨"b", "y", 0⟩, ⟨"c", "y", 1⟩] ∧
      ∀ other bound, Feasible shiftWorkflow {} shiftRegistry 0 other →
      Complete shiftWorkflow {} other →
        (∀ b ∈ other, b.startTime + taskDuration shiftWorkflow b.taskId ≤ bound) →
        2 * 3 ≤ 3 * bound := by
  have hplan : (plan insertionOrder shiftWorkflow {} shiftRegistry 0 none none).assignments =
      [⟨"a", "x", 0⟩, ⟨"b", "y", 0⟩, ⟨"c", "y", 1⟩] := by decide
  refine ⟨hplan, fun other bound hfeasible hcomplete hbound => ?_⟩
  have hmakespan :=
    (makespan_le_of_any_order insertionOrder shiftWorkflow {} shiftRegistry 0 none none ["x", "y"]
      (by decide) batch_shift interchangeable_shift unhurried_shift rfl (Or.inr rfl)).2 other bound
      hfeasible hcomplete hbound ⟨"a", "x", 0⟩ (by rw [hplan]; exact List.mem_cons_self)
  have hduration : taskDuration shiftWorkflow "a" = 3 := by decide
  rw [hduration] at hmakespan
  simpa using hmakespan

end TaskOrchestrator.Core
