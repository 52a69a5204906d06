import TaskOrchestrator.Core.Dispatching

/-!
# Actors within their capacity

A plan keeps every actor within its capacity for as long as the estimates in it hold: a task
in flight is reserved up to its planned end, and one that had already outlived it when the
plan was made is reserved from then on. A dispatch takes the plan at its word. Where, at
every dispatch to an actor, no task on it has passed its planned end since the plan was made,
the actor is never over its capacity.
-/

namespace TaskOrchestrator.Core

open Library

set_option autoImplicit false

/-- An orchestrator and the time that its latest schedule was computed for. -/
def trackPlanning (tracked : Orchestrator × Option Time) (op : Operation) :
    Orchestrator × Option Time :=
  (tracked.1.apply op, tracked.1.planningTime op <|> tracked.2)

/-- The time that the latest schedule of a run was computed for. -/
def lastPlanningTime (initial : Orchestrator) (operations : List Operation) : Option Time :=
  (runMachine trackPlanning (initial, none) operations).2

/-- What a tick is about to dispatch, and what is in flight on the same actors, is on schedule:
no planned end is reached, or it was reached before the schedule was computed. -/
def OnSchedule (initial : Orchestrator) (operations : List Operation) (now : Time) : Prop :=
  let o := initial.run operations
  ∀ a ∈ o.latestSchedule.assignments, o.dispatchable now a = true →
    now < a.startTime + taskDuration o.workflow a.taskId ∧
    ∀ taskId ∈ ownedBy o.workflowState a.actorId,
      ∀ stop ∈ o.workflowState.taskPlannedEndTime.lookup taskId,
      now < stop ∨
        now < kOpaqueReservationEnd ∧ ∃ time ∈ lastPlanningTime initial operations, stop ≤ time

instance (initial : Orchestrator) (operations : List Operation) (now : Time) :
    Decidable (OnSchedule initial operations now) :=
  inferInstanceAs (Decidable (∀ a ∈ _, _ → _ ∧ ∀ taskId ∈ _, ∀ stop ∈ _, _ ∨ _ ∧ ∃ time ∈ _, _))

def DispatchesOnSchedule (initial : Orchestrator) (operations : List Operation) : Prop :=
  ∀ past hash now rest, operations = past ++ Operation.tick hash now :: rest →
    (initial.run past).dispatches → OnSchedule initial past now

def tickTimes (operations : List Operation) : List Time := operations.filterMap Operation.tickTime

theorem trackPlanning_run (initial : Orchestrator) (operations : List Operation) :
    (runMachine trackPlanning (initial, none) operations).1 = initial.run operations := by
  induction operations using List.reverseRecOn with
  | nil => rfl
  | append_singleton operations op ih =>
    rw [runMachine_concat, Orchestrator.run, runMachine_concat, trackPlanning, ih]
    rfl

theorem lastPlanningTime_concat (initial : Orchestrator) (operations : List Operation)
    (op : Operation) :
    lastPlanningTime initial (operations ++ [op]) =
      ((initial.run operations).planningTime op <|> lastPlanningTime initial operations) := by
  unfold lastPlanningTime
  rw [runMachine_concat, trackPlanning, trackPlanning_run]

theorem lastPlanningTime_eq {initial : Orchestrator} {past : List Operation} {op : Operation}
    {schedule : ScheduleResult} {time : Time} (h : Plans (initial.run past) op schedule time)
    {rest : List Operation}
    (hquiet : Meets Orchestrator.apply Quiet ((initial.run past).apply op) rest) :
    lastPlanningTime initial (past ++ op :: rest) = some time := by
  induction rest using List.reverseRecOn with
  | nil =>
    rw [lastPlanningTime_concat, h.plansFor]
    rfl
  | append_singleton rest last ih =>
    obtain ⟨hrest, hlast⟩ := meets_concat.mp hquiet
    have hrun : initial.run (past ++ op :: rest) =
        runMachine Orchestrator.apply ((initial.run past).apply op) rest :=
      runMachine_append Orchestrator.apply initial past (op :: rest)
    have hsplit : past ++ op :: (rest ++ [last]) = (past ++ op :: rest) ++ [last] := by simp
    rw [hsplit, lastPlanningTime_concat, hrun, hlast.2.1, ih hrest]
    rfl

section Reserved

variable {workflow : Workflow} {registered : ActorRegistry} {s : Orchestrator}

theorem Bookkeeping.baselineLoad (h : Bookkeeping workflow registered s) {id : ActorId}
    {actor : Actor} (hactor : registered.get id = some actor) :
    baselineLoad s.registry s.workflowState id =
      actor.currentLoad + committedDemand workflow s.workflowState id := by
  have hget : s.registry.get id = some { actor with
      currentLoad := actor.currentLoad + committedDemand workflow s.workflowState id } := by
    rw [h.loads id, hactor]
    rfl
  unfold Core.baselineLoad
  cases hload : s.workflowState.actorLoad.lookup id with
  | none =>
    rw [hget]
    rfl
  | some load =>
    obtain ⟨other, hother, rfl⟩ := h.reported id load hload
    obtain rfl := Option.some.inj (hget.symm.trans hother)
    rfl

/-- The tasks of an actor that had outlived their planned end. -/
def overdue (workflow : Workflow) (state : WorkflowState) (time : Time)
    (id : ActorId) : List TaskId :=
  (ownedBy state id).filter fun taskId => (assignedInterval workflow state time taskId).stop ≤ time

/-- The load that no interval accounts for covers at least the tasks that are overdue. -/
theorem overdue_le (hdemand : ∀ id, 0 ≤ taskDemand workflow id)
    (h : Bookkeeping workflow registered s) {id : ActorId} {actor : Actor}
    (hactor : registered.get id = some actor) (hload : 0 ≤ actor.currentLoad) (time : Time) :
    ((overdue workflow s.workflowState time id).map (taskDemand workflow)).sum ≤
      Core.baselineLoad s.registry s.workflowState id - inFlightDemandAt workflow s.workflowState
        time id time := by
  have hnodup : (ownedBy s.workflowState id).Nodup := h.assignedNodup.filter _
  have hknown : inFlightDemandAt workflow s.workflowState time id time =
      (((inFlight workflow s.workflowState time).inForce (ownedBy s.workflowState id) time).map
        (taskDemand workflow)).sum :=
    Weighing.load_eq_sum_inForce _ _ _
  have hdisjoint : ((inFlight workflow s.workflowState time).inForce
      (ownedBy s.workflowState id) time ++
      overdue workflow s.workflowState time id).Nodup := by
    refine (hnodup.filter _).append (hnodup.filter _) ?_
    intro taskId hforce hover
    have hcovers := ((inFlight workflow s.workflowState time).mem_inForce.mp hforce).2.2
    have hstop := (List.mem_filter.mp hover).2
    exact absurd hcovers (not_lt.mpr (of_decide_eq_true hstop))
  have hsub : ((inFlight workflow s.workflowState time).inForce (ownedBy s.workflowState id) time ++
      overdue workflow s.workflowState time id) ⊆ ownedBy s.workflowState id := by
    intro taskId hmem
    rcases List.mem_append.mp hmem with hmem | hmem
    · exact ((inFlight workflow s.workflowState time).mem_inForce.mp hmem).1
    · exact (List.mem_filter.mp hmem).1
  have hsum := sum_map_le_of_subset hdemand hdisjoint hsub
  rw [List.map_append, List.sum_append] at hsum
  rw [h.baselineLoad hactor, hknown]
  unfold committedDemand
  omega

/-- The plan has taken the task into account on the actor at the instant: the task was in flight
and is planned to be so then, or it was overdue, or the plan assigns it. -/
def Reserves (workflow : Workflow) (s : Orchestrator) (schedule : ScheduleResult) (time now : Time)
    (id : ActorId) (taskId : TaskId) : Prop :=
  taskId ∈ (inFlight workflow s.workflowState time).inForce (ownedBy s.workflowState id) now ∨
    (now < kOpaqueReservationEnd ∧ taskId ∈ overdue workflow s.workflowState time id) ∨
    ∃ b ∈ schedule.assignments, b.actorId = id ∧ b.taskId = taskId ∧ (planned workflow).Covers b now

/-- At an instant of one of its assignments, what a plan has reserved is within the capacity. -/
theorem reserved_within_capacity (hdemand : ∀ id, 0 ≤ taskDemand workflow id)
    (h : Bookkeeping workflow registered s) {hash : IterationOrder} {time now : Time}
    {a : Assignment} (ha : a ∈ (s.scheduleAt hash time).assignments)
    (hcovers : (planned workflow).Covers a now) {actor : Actor}
    (hactor : registered.get a.actorId = some actor) (hload : 0 ≤ actor.currentLoad)
    {tasks : List TaskId} (hnodup : tasks.Nodup)
    (htasks : ∀ taskId ∈ tasks, Reserves workflow s (s.scheduleAt hash time) time now a.actorId
      taskId) :
    (tasks.map (taskDemand workflow)).sum ≤ actor.capacity := by
  obtain rfl := h.sameWorkflow
  obtain ⟨registeredNow, hoffered⟩ := plan_offered ha
  have hget := h.loads a.actorId
  rw [hactor, Option.map_some] at hget
  have hcapacity := plan_capacity ha hget hcovers
  have htime : time ≤ now := hoffered.afterNow.trans hcovers.1
  -- The three kinds of tasks as lists whose demands the plan has summed.
  let running :=
    (inFlight s.workflow s.workflowState time).inForce (ownedBy s.workflowState a.actorId) now
  let late :=
    if now < kOpaqueReservationEnd then overdue s.workflow s.workflowState time a.actorId else []
  let assigned :=
    (planned s.workflow).inForce (assignedTo a.actorId (s.scheduleAt hash time).assignments) now
  have hsub : tasks ⊆ running ++ (late ++ assigned.map Assignment.taskId) := by
    intro taskId hmem
    rcases htasks taskId hmem with hrunning | ⟨hopaqueLoad, hlate⟩ | ⟨b, hb, hid, rfl, hbcovers⟩
    · exact List.mem_append_left _ hrunning
    · refine List.mem_append_right _ (List.mem_append_left _ ?_)
      simp only [late, if_pos hopaqueLoad]
      exact hlate
    · refine List.mem_append_right _ (List.mem_append_right _ (List.mem_map.mpr ⟨b, ?_, rfl⟩))
      refine (planned s.workflow).mem_inForce.mpr ⟨?_, hbcovers⟩
      simpa [assignedTo] using And.intro hb hid
  have hsum := sum_map_le_of_subset hdemand hnodup hsub
  rw [List.map_append, List.sum_append, List.map_append, List.sum_append, List.map_map] at hsum
  have hrunning : inFlightDemandAt s.workflow s.workflowState time a.actorId now =
      (running.map (taskDemand s.workflow)).sum := Weighing.load_eq_sum_inForce _ _ _
  have hassigned : (planned s.workflow).load
      (assignedTo a.actorId (s.scheduleAt hash time).assignments) now =
      (assigned.map (taskDemand s.workflow ∘ Assignment.taskId)).sum :=
        Weighing.load_eq_sum_inForce _ _ _
  have hlate : (late.map (taskDemand s.workflow)).sum ≤
      if time ≤ now ∧ now < kOpaqueReservationEnd then
      max 0 (Core.baselineLoad s.registry s.workflowState a.actorId -
        inFlightDemandAt s.workflow s.workflowState time a.actorId time) else 0 := by
    by_cases hopaqueLoad : now < kOpaqueReservationEnd
    · rw [if_pos ⟨htime, hopaqueLoad⟩]
      simp only [late, if_pos hopaqueLoad]
      exact (overdue_le hdemand h hactor hload time).trans (le_max_right _ _)
    · rw [if_neg (fun hboth => hopaqueLoad hboth.2)]
      simp [late, hopaqueLoad]
  have hreserved : reservedDemandAt s.workflow s.workflowState s.registry time a.actorId now =
      inFlightDemandAt s.workflow s.workflowState time a.actorId now +
        if time ≤ now ∧ now < kOpaqueReservationEnd then
          max 0 (Core.baselineLoad s.registry s.workflowState a.actorId -
            inFlightDemandAt s.workflow s.workflowState time a.actorId time) else 0 := rfl
  change _ + (planned s.workflow).load (assignedTo a.actorId (s.scheduleAt hash time).assignments)
    now ≤ _ at hcapacity
  rw [hreserved, hrunning, hassigned] at hcapacity
  dsimp only at hcapacity
  calc (tasks.map (taskDemand s.workflow)).sum
      ≤ (running.map (taskDemand s.workflow)).sum + ((late.map (taskDemand s.workflow)).sum +
          (assigned.map (taskDemand s.workflow ∘ Assignment.taskId)).sum) := hsum
    _ ≤ actor.capacity := by omega

end Reserved

section Steps

variable {workflow : Workflow} {registered : ActorRegistry} {o : Orchestrator}

theorem RunsOn.mem_ownedBy {past state : WorkflowState} {taskId : TaskId} {id : ActorId}
    (h : RunsOn past state taskId) (hmem : taskId ∈ ownedBy state id) : taskId ∈ ownedBy past id :=
  Core.mem_ownedBy.mpr ⟨h.inFlight, h.actor ▸ (Core.mem_ownedBy.mp hmem).2⟩

theorem reserves_of_inFlight {s : Orchestrator} {schedule : ScheduleResult} {state : WorkflowState}
    {time now : Time} {taskId : TaskId} {id : ActorId} (hruns : RunsOn s.workflowState state taskId)
    (howned : taskId ∈ ownedBy state id) {start stop : Time}
    (hstart : state.taskPlannedStartTime.lookup taskId = some start)
    (hstop : state.taskPlannedEndTime.lookup taskId = some stop) (hstarted : start ≤ now)
    (hestimate : now < stop ∨ now < kOpaqueReservationEnd ∧ stop ≤ time) :
    Reserves workflow s schedule time now id taskId := by
  have hinterval : (assignedInterval workflow s.workflowState time taskId).start = start ∧
      (assignedInterval workflow s.workflowState time taskId).stop = stop := by
    simp [assignedInterval, ← hruns.start, ← hruns.stop, hstart, hstop]
  have hpastOwned := hruns.mem_ownedBy howned
  rcases hestimate with hrunning | ⟨hopaqueLoad, hover⟩
  · refine Or.inl ((inFlight _ _ _).mem_inForce.mpr ⟨hpastOwned, ?_, ?_⟩)
    · exact hinterval.1.trans_le hstarted
    · exact hrunning.trans_eq hinterval.2.symm
  · refine Or.inr (Or.inl ⟨hopaqueLoad, List.mem_filter.mpr ⟨hpastOwned, ?_⟩⟩)
    exact decide_eq_true (hinterval.2.trans_le hover)

theorem reserves_of_dispatched {s : Orchestrator} {hash : IterationOrder} {state : WorkflowState}
    {time now : Time} {b : Assignment} (hb : b ∈ (s.scheduleAt hash time).assignments)
    (hruns : RunsAs workflow state b) {id : ActorId} (howned : b.taskId ∈ ownedBy state id)
    {start stop : Time} (hstart : state.taskPlannedStartTime.lookup b.taskId = some start)
    (hstop : state.taskPlannedEndTime.lookup b.taskId = some stop) (hlt : start < stop)
    (hstarted : start ≤ now) (hestimate : now < stop ∨ now < kOpaqueReservationEnd ∧ stop ≤ time) :
    Reserves workflow s (s.scheduleAt hash time) time now id b.taskId := by
  obtain ⟨offering, hoffered⟩ := plan_offered hb
  obtain rfl : start = b.startTime := Option.some.inj (hstart.symm.trans hruns.start)
  have hstopEq : stop = b.startTime + taskDuration workflow b.taskId :=
    Option.some.inj (hstop.symm.trans hruns.stop)
  refine Or.inr (Or.inr ⟨b, hb, ?_, rfl, hstarted, ?_⟩)
  · exact Option.some.inj (hruns.actor.symm.trans (mem_ownedBy.mp howned).2)
  · rcases hestimate with hrunning | ⟨-, hover⟩
    · exact hrunning.trans_eq hstopEq
    · exact absurd (hoffered.afterNow.trans_lt hlt) (not_lt.mpr hover)

/-- Every task in flight has a planned interval, which began by one of the times. -/
def Timed (times : List Time) (state : WorkflowState) : Prop :=
  ∀ taskId ∈ state.assignedTasks, ∃ start stop, state.taskPlannedStartTime.lookup taskId =
    some start ∧
    state.taskPlannedEndTime.lookup taskId = some stop ∧ start < stop ∧ ∃ time ∈ times, start ≤ time

theorem Timed.runsOn {times later : List Time} {past state : WorkflowState} {taskId : TaskId}
    (h : Timed times past) (hlater : times ⊆ later) (hruns : RunsOn past state taskId) :
    ∃ start stop, state.taskPlannedStartTime.lookup taskId = some start ∧
      state.taskPlannedEndTime.lookup taskId = some stop ∧ start < stop ∧
        ∃ time ∈ later, start ≤ time := by
  obtain ⟨start, stop, hstart, hstop, hlt, time, htime, hle⟩ := h taskId hruns.inFlight
  exact ⟨start, stop, hruns.start.trans hstart, hruns.stop.trans hstop, hlt, time,
    hlater htime, hle⟩

theorem Timed.dispatched {times : List Time} (h : Timed times o.workflowState) {now : Time}
    (hon : ∀ a ∈ o.latestSchedule.assignments, o.dispatchable now a = true →
      now < a.startTime + taskDuration o.workflow a.taskId) :
    Timed (times ++ [now]) (o.dispatchAll now).workflowState := by
  intro taskId hmem
  rcases (handedOut_dispatchAll o now).origin taskId hmem with hruns | ⟨-, a, ha, rfl, hdue, hruns⟩
  · exact h.runsOn (List.subset_append_left _ _) hruns
  · have hstart := (Orchestrator.dispatchable_iff.mp hdue).1
    exact ⟨a.startTime, _, hruns.start, hruns.stop, hstart.trans_lt (hon a ha hdue),
      now, by simp, hstart⟩

end Steps

section Runs

variable {initial : Orchestrator} {registered : ActorRegistry}

/-- A tick that dispatches on schedule leaves every actor within its capacity: at the time of
the tick the plan has reserved all that is in flight then. -/
theorem dispatch_within_capacity (hinitial : initial.latestSchedule.assignments = [])
    (hdemand : ∀ id, 0 ≤ taskDemand initial.workflow id)
    (hbooks : ∀ operations : List Operation, (∀ op ∈ operations, op.isRuntime = true) →
      Bookkeeping initial.workflow registered (initial.run operations))
    {operations : List Operation} (hruntime : ∀ op ∈ operations, op.isRuntime = true) {now : Time}
    (hdispatches : (initial.run operations).dispatches) (hon : OnSchedule initial operations now)
    (htimed : Timed (tickTimes operations) (initial.run operations).workflowState)
    (hclock : ∀ time ∈ tickTimes operations, time ≤ now) {id : ActorId} {actor : Actor}
    (hactor : registered.get id = some actor) (hload : 0 ≤ actor.currentLoad)
    (hwithin : committedDemand initial.workflow (initial.run operations).workflowState id ≤
      actor.capacity) :
    committedDemand initial.workflow ((initial.run operations).dispatchAll now).workflowState id ≤
      actor.capacity := by
  set o := initial.run operations with ho
  have hworkflow : o.workflow = initial.workflow := (hbooks operations hruntime).sameWorkflow
  have hout := handedOut_dispatchAll o now
  have hnodup : (ownedBy (o.dispatchAll now).workflowState id).Nodup :=
    ((hbooks operations hruntime).toLoadAccounting.dispatchAll now).assignedNodup.filter _
  by_cases hnew : ∃ taskId ∈ ownedBy (o.dispatchAll now).workflowState id,
    taskId ∉ o.workflowState.assignedTasks
  · -- Something is dispatched to the actor: go back to the state in which its plan was made.
    obtain ⟨newId, hnewOwned, hnotBefore⟩ := hnew
    obtain ⟨hnewAssigned, hnewOwner⟩ := mem_ownedBy.mp hnewOwned
    obtain hruns | ⟨-, a, ha, rfl, hdue, hruns⟩ := hout.origin newId hnewAssigned
    · exact absurd hruns.inFlight hnotBefore
    obtain rfl : a.actorId = id := Option.some.inj (hruns.actor.symm.trans hnewOwner)
    obtain ⟨past, op, rest, time, rfl, hplans, hquiet⟩ :=
      exists_planning hinitial hruntime hdispatches.2.1 (List.ne_nil_of_mem ha)
    have hrun : o = ((initial.run past).apply op).run rest :=
      runMachine_append Orchestrator.apply initial past (op :: rest)
    have hpast : ∀ b ∈ past, b.isRuntime = true :=
      fun b hb => hruntime b (List.mem_append_left _ hb)
    have hpastBooks := hbooks past hpast
    have hsince := SincePlanning.run hplans hquiet
    rw [← hrun, hpastBooks.sameWorkflow] at hsince
    have htime := lastPlanningTime_eq hplans hquiet
    obtain ⟨planHash, hschedule⟩ := hplans.computed
    have hmem : a ∈ ((initial.run past).scheduleAt planHash time).assignments := hschedule ▸ ha
    have hcoversNew : ∀ b ∈ o.latestSchedule.assignments, o.dispatchable now b = true →
        (planned initial.workflow).Covers b now := by
      intro b hb hbdue
      refine ⟨(Orchestrator.dispatchable_iff.mp hbdue).1, ?_⟩
      have hend := (hon b hb hbdue).1
      rw [← ho, hworkflow] at hend
      exact hend
    refine reserved_within_capacity hdemand hpastBooks hmem
      (hcoversNew a ha hdue) hactor hload hnodup ?_
    intro taskId howned
    obtain ⟨hassigned, howner⟩ := mem_ownedBy.mp howned
    rcases hout.origin taskId hassigned with hbefore | ⟨-, b, hb, rfl, hbdue, hbruns⟩
    · obtain ⟨start, stop, hstart, hstop, hlt, tick, htick, hle⟩ := htimed taskId hbefore.inFlight
      have hstarted : start ≤ now := hle.trans (hclock tick htick)
      have hownedBefore := hbefore.mem_ownedBy howned
      have hestimate : now < stop ∨ now < kOpaqueReservationEnd ∧ stop ≤ time := by
        rcases (hon a ha hdue).2 taskId hownedBefore stop hstop with hrunning
          | ⟨hopaqueLoad, latest, hlatest, hover⟩
        · exact Or.inl hrunning
        · exact Or.inr ⟨hopaqueLoad, Option.some.inj (hlatest.symm.trans htime) ▸ hover⟩
      rcases hsince.origin taskId hbefore.inFlight with hpastRuns | ⟨b, hb, rfl, hbruns⟩
      · exact reserves_of_inFlight hpastRuns hownedBefore hstart hstop hstarted hestimate
      · exact reserves_of_dispatched (hschedule ▸ hb) hbruns hownedBefore hstart hstop hlt
          hstarted hestimate
    · refine Or.inr (Or.inr ⟨b, hschedule ▸ hb, ?_, rfl, hcoversNew b hb hbdue⟩)
      exact Option.some.inj (hbruns.actor.symm.trans howner)
  · -- Nothing is, so what the actor owns it owned before.
    refine (sum_map_le_of_subset hdemand hnodup ?_).trans hwithin
    intro taskId hmem
    rcases hout.origin taskId (mem_ownedBy.mp hmem).1 with hruns | ⟨hnot, -⟩
    · exact hruns.mem_ownedBy hmem
    · exact absurd ⟨taskId, hmem, hnot⟩ hnew

theorem tickTimes_concat (operations : List Operation) (op : Operation) :
    tickTimes (operations ++ [op]) = tickTimes operations ++ op.tickTime.toList := by
  unfold tickTimes
  rw [List.filterMap_append]
  cases hop : op.tickTime with
  | none => simp [hop]
  | some time => simp [hop]

theorem DispatchesOnSchedule.init {operations : List Operation} {op : Operation}
    (h : DispatchesOnSchedule initial (operations ++ [op])) :
    DispatchesOnSchedule initial operations := by
  intro past hash now rest heq hdispatches
  exact h past hash now (rest ++ [op]) (by simp [heq]) hdispatches

theorem within_capacity_run (hinitial : initial.latestSchedule.assignments = [])
    (hnone : initial.workflowState.assignedTasks = [])
    (hdemand : ∀ id, 0 ≤ taskDemand initial.workflow id)
    (hbooks : ∀ operations : List Operation, (∀ op ∈ operations, op.isRuntime = true) →
      Bookkeeping initial.workflow registered (initial.run operations))
    (hregistered : ∀ id actor, registered.get id = some actor →
      0 ≤ actor.currentLoad ∧ actor.currentLoad ≤ actor.capacity)
    {operations : List Operation} (hruntime : ∀ op ∈ operations, op.isRuntime = true)
    (hclock : (tickTimes operations).Pairwise (· ≤ ·))
    (hon : DispatchesOnSchedule initial operations) :
    Timed (tickTimes operations) (initial.run operations).workflowState ∧
      ∀ id actor, registered.get id = some actor →
        committedDemand initial.workflow (initial.run operations).workflowState id ≤
          actor.capacity := by
  induction operations using List.reverseRecOn with
  | nil =>
    constructor
    · intro taskId hmem
      exact absurd hmem (by simp [Orchestrator.run, hnone])
    · intro id actor hactor
      have hle := hregistered id actor hactor
      simp only [committedDemand, ownedBy, Orchestrator.run, runMachine_nil, hnone, List.filter_nil,
        List.map_nil, List.sum_nil]
      exact hle.1.trans hle.2
  | append_singleton operations op ih =>
    have hbefore : ∀ b ∈ operations, b.isRuntime = true :=
      fun b hb => hruntime b (List.mem_append_left _ hb)
    have hop : op.isRuntime = true := hruntime op (by simp)
    rw [tickTimes_concat] at hclock ⊢
    obtain ⟨hclockBefore, -, hlast⟩ := List.pairwise_append.mp hclock
    obtain ⟨htimed, hwithin⟩ := ih hbefore hclockBefore hon.init
    have hstep : initial.run (operations ++ [op]) = (initial.run operations).apply op :=
      runMachine_concat Orchestrator.apply initial operations op
    rw [hstep]
    by_cases hdispatches : ∃ now ∈ op.tickTime, (initial.run operations).dispatches
    · obtain ⟨now, hnow, hdispatches⟩ := hdispatches
      cases op with
      | tick hash time =>
        obtain rfl := Option.some.inj hnow
        have hschedule := hon operations hash time [] rfl hdispatches
        have hcase : (initial.run operations).apply (.tick hash time) =
            { (initial.run operations).dispatchAll time with fsm := .running } := by
          rcases (initial.run operations).tick_eq hash time with ⟨hplans, -⟩ | ⟨-, -, heq⟩
            | ⟨-, hnot, -⟩
          · refine absurd hplans ?_
            obtain ⟨hstarted, hflag, hfsm⟩ := hdispatches
            rcases hfsm with hfsm | hfsm
            · simp [Orchestrator.planningTime, hstarted, hflag, hfsm]
            · simp [Orchestrator.planningTime, hstarted, hflag, hfsm]
          · exact heq
          · exact absurd hdispatches hnot
        rw [hcase]
        refine ⟨htimed.dispatched fun a ha hdue => (hschedule a ha hdue).1,
          fun id actor hactor => ?_⟩
        exact dispatch_within_capacity hinitial hdemand hbooks hbefore hdispatches hschedule htimed
          (fun earlier hearlier => hlast earlier hearlier time (by simp [Operation.tickTime]))
            hactor
          (hregistered id actor hactor).1 (hwithin id actor hactor)
      | _ => exact absurd hnow (by simp [Operation.tickTime])
    · have hruns : ∀ taskId ∈ ((initial.run operations).apply op).workflowState.assignedTasks,
          RunsOn (initial.run operations).workflowState
            ((initial.run operations).apply op).workflowState taskId :=
        fun taskId hmem => runsOn_apply hop (fun now hnow hd => hdispatches ⟨now, hnow, hd⟩) hmem
      constructor
      · intro taskId hmem
        exact htimed.runsOn (List.subset_append_left _ _) (hruns taskId hmem)
      · intro id actor hactor
        refine (sum_map_le_of_subset hdemand ?_ ?_).trans (hwithin id actor hactor)
        · rw [← hstep]
          exact (hbooks _ hruntime).assignedNodup.filter _
        · intro taskId hmem
          exact (hruns taskId (mem_ownedBy.mp hmem).1).mem_ownedBy hmem

end Runs

/-- When every dispatch to an actor finds the tasks on it on schedule, no actor ever owns tasks
in flight beyond its capacity. -/
theorem never_overcommitted (before after : List Operation)
    (hbefore : ∀ op ∈ before, op.isStart = false) (hafter : ∀ op ∈ after, op.isRuntime = true)
    (hdemands : ∀ process ∈ (({} : Orchestrator).run before).workflow.processes.rows,
      0 ≤ process.demand)
    (hloads : ∀ actor ∈ (({} : Orchestrator).run before).registry.actors.rows,
      0 ≤ actor.currentLoad ∧ actor.currentLoad ≤ actor.capacity)
    (hclock : (tickTimes after).Pairwise (· ≤ ·))
    (hon : DispatchesOnSchedule (({} : Orchestrator).run before) after) :
    let o := (({} : Orchestrator).run before).run after
    ∀ id actor, o.registry.get id = some actor →
      committedDemand o.workflow o.workflowState id ≤ actor.capacity := by
  intro o id actor hactor
  have hunstarted := Orchestrator.unstarted_run hbefore
  have hbooks :=
    fun (operations : List Operation) (hruntime : ∀ op ∈ operations, op.isRuntime = true) =>
    bookkeeping_run hbefore hruntime hdemands fun actor hmem => (hloads actor hmem).1
  have hregistered : ∀ id actor, (({} : Orchestrator).run before).registry.get id = some actor →
      0 ≤ actor.currentLoad ∧ actor.currentLoad ≤ actor.capacity :=
    fun id actor hget => hloads actor ((KeyedRows.get?_eq_some_iff _ _ _).mp hget).1
  obtain ⟨-, hwithin⟩ := within_capacity_run hunstarted.noSchedule hunstarted.noneAssigned
    (taskDemand_nonneg hdemands) hbooks hregistered hafter hclock hon
  rw [(hbooks after hafter).loads id] at hactor
  obtain ⟨registered, hget, rfl⟩ := Option.map_eq_some_iff.mp hactor
  rw [(hbooks after hafter).sameWorkflow]
  exact hwithin id registered hget

/-- The first task is dispatched in time. -/
theorem never_overcommitted_in_time :
    let o :=
      (({} : Orchestrator).run exampleSetup).run [.start insertionOrder, .tick insertionOrder 0]
    o.workflowState.assignedTasks = ["a"] ∧ ∀ id actor, o.registry.get id = some actor →
      committedDemand o.workflow o.workflowState id ≤ actor.capacity := by
  refine ⟨by decide, never_overcommitted exampleSetup
    [.start insertionOrder, .tick insertionOrder 0] (by decide)
    (by decide) (by decide) (by decide) (by decide) ?_⟩
  intro past hash now rest heq _
  have honly : past = [.start insertionOrder] ∧ now = 0 := by
    rcases past with _ | ⟨first, _ | ⟨second, past⟩⟩
    · simp at heq
    · simp only [List.cons_append, List.nil_append, List.cons.injEq, Operation.tick.injEq] at heq
      obtain ⟨rfl, ⟨-, rfl⟩, -⟩ := heq
      exact ⟨rfl, rfl⟩
    · have hlength := congrArg List.length heq
      simp at hlength
  obtain ⟨rfl, rfl⟩ := honly
  decide

/-- The first task runs longer than estimated, and the second is dispatched to the same actor
while it does. -/
theorem overcommitted_by_late_task :
    let initial := ({} : Orchestrator).run exampleSetup
    let o := initial.run [.start insertionOrder, .tick insertionOrder 0, .tick insertionOrder 5]
    (∀ actor ∈ initial.registry.actors.rows, actor.currentLoad ≤ actor.capacity) ∧
    ¬ ∀ id actor, o.registry.get id = some actor →
      committedDemand o.workflow o.workflowState id ≤ actor.capacity := by
  intro initial o
  refine ⟨by decide, fun hwithin => ?_⟩
  have hcapacity : (o.registry.get "x").map Actor.capacity = some 2 := by decide
  have hcommitted : committedDemand o.workflow o.workflowState "x" = 3 := by decide
  obtain ⟨actor, hactor, htwo⟩ := Option.map_eq_some_iff.mp hcapacity
  have hle := hwithin "x" actor hactor
  omega

end TaskOrchestrator.Core
