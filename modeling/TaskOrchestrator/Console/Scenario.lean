import TaskOrchestrator.Console.Details
import TaskOrchestrator.Console.TaskEditor

/-!
# Scenarios of the console

A new workflow with the actors and the tasks of the one that is shown, its tasks shifted to a new
start. What the console shows of it, and what the planner gets.
-/

namespace TaskOrchestrator.Console

open Protocol Library

set_option autoImplicit false

def templateStart (tasks : List WorkflowTask) : Option Number :=
  tasks.foldl (fun currentEarliest task =>
    match currentEarliest with
    | none => some task.requestedTimeMs
    | some earliest => some (Number.min earliest task.requestedTimeMs)) none

def shiftIfSet (time offsetMs : Number) : Number :=
  if Number.zero.lt time then time + offsetMs else .zero

def shiftTaskSchedule (browser : Browser) (offsetMs : Number) (task : WorkflowTask) :
    Option WorkflowTask := do
  let requestedTimeMs := task.requestedTimeMs + offsetMs
  let latestStartTimeMs := shiftIfSet task.latestStartTimeMs offsetMs
  let deadlineMs := shiftIfSet task.deadlineMs offsetMs
  let requestedAt ← formatDateTime browser requestedTimeMs
  let latestStartAt ← formatIfSet browser latestStartTimeMs
  let deadlineAt ← formatIfSet browser deadlineMs
  return { task with
    requestedTimeMs, requestedAt, latestStartTimeMs, latestStartAt, deadlineMs, deadlineAt }

structure WorkflowUpsertCommand where
  workflowId : WorkflowId
  actors : List WorkflowActor
  tasks : List WorkflowTask
  note : Option String

def scenarioOffset (browser : Browser) (displayed : DisplayedWorkflow) (cloneCurrentTasks : Bool)
    (scenarioAnchor : DatetimeLocal) : Number :=
  match cloneCurrentTasks, templateStart displayed.tasks with
  | true, some start => fromDatetimeLocalValue browser scenarioAnchor - start
  | _, _ => .zero

def submitScenario (browser : Browser) (displayed : DisplayedWorkflow) (workflowId : WorkflowId)
    (cloneCurrentTasks : Bool) (scenarioAnchor : DatetimeLocal) (note : String) :
    Option WorkflowUpsertCommand := do
  let offsetMs := scenarioOffset browser displayed cloneCurrentTasks scenarioAnchor
  let tasks ← if cloneCurrentTasks then displayed.tasks.mapM (shiftTaskSchedule browser offsetMs)
    else some []
  return {
    workflowId := trimSpace workflowId
    actors := displayed.actors
    tasks
    note := if trimSpace note ≠ "" then some (trimSpace note) else none }

/-- The configuration that the server reads from the body of `upsertWorkflow`. -/
def readConfig (command : WorkflowUpsertCommand) : Option WorkflowConfig := do
  let actors ← (command.actors.map toActorPayload).mapM readActor
  let tasks ← (command.tasks.map toTaskPayload).mapM readTask
  return { id := command.workflowId, actors, tasks }

/-- The workflow that is submitted has the actors of the template, and when it is loaded its tasks
are shown as those of the template, shifted. What else is stored with it and the time when it is
loaded are arbitrary. -/
def ClonesShifted (browser : Browser) (now : ℕ) (template loaded : WorkflowDetail)
    (displayed : DisplayedWorkflow) (workflowId : WorkflowId) (scenarioAnchor : DatetimeLocal)
    (note : String) : Prop :=
  ∃ command config clone,
    submitScenario browser displayed workflowId true scenarioAnchor note = some command ∧
      readConfig command = some config ∧
      config.actors.map App.toAppActor = template.config.actors.map App.toAppActor ∧
      displayWorkflow browser now { loaded with config } = some clone ∧
      -- Task by task, in the order in which they are shown.
      config.tasks.mapM
        (fun task => mapWorkflowTask browser task ⟨clone.scheduleMode, clone.scheduleAnchorMs⟩) =
        some clone.tasks ∧
      displayed.tasks.mapM
        (shiftTaskSchedule browser (scenarioOffset browser displayed true scenarioAnchor)) =
        some clone.tasks

def Accepted (value : Number) : Prop := (readInt64 (numberText value)).isSome

/-- A time that is shown again: one in the range of dates, and a whole number of minutes behind the
anchor where there is one. -/
def TimeReturns (context : WorkflowScheduleContext) (zeroMeansUnset : Bool)
    (time : Number) : Prop :=
  match context.mode with
  | .absoluteMs => time.le (.finite lastDate) ∧ Accepted time
  | .relativeMinutes =>
    (zeroMeansUnset = true ∧ time = .zero) ∨
      ∃ anchor : ℚ, ∃ minutes : ℕ, context.anchorMs = some (.finite anchor) ∧
      (zeroMeansUnset = true → 0 < minutes) ∧
        time = .finite (anchor + minutes * 60000) ∧ anchor + minutes * 60000 ≤ lastDate

def DurationReturns (context : WorkflowScheduleContext) (durationMs : Number) : Prop :=
  match context.mode with
  | .absoluteMs => Accepted durationMs
  | .relativeMinutes => ∃ minutes, readInt64 (numberText (toDurationMinutes durationMs)) =
    some minutes ∧
      parseNumber minutes * minuteInMs = durationMs

structure TaskReturns (context : WorkflowScheduleContext) (offsetMs : Number)
    (task : WorkflowTask) : Prop where
  requestedTime : TimeReturns context false (task.requestedTimeMs + offsetMs)
  latestStartTime : TimeReturns context true (shiftIfSet task.latestStartTimeMs offsetMs)
  deadline : TimeReturns context true (shiftIfSet task.deadlineMs offsetMs)
  duration : DurationReturns context task.durationMs
  priority : Accepted task.priority
  actorDistances : ∀ distance ∈ task.actorDistances, Accepted distance.distance
  phaseDurations : ∀ duration ∈ task.phaseDurations, Accepted duration

/-- What is stored besides the configuration can be shown: no time of it is beyond the range of
dates. -/
def HistoryPrints (context : WorkflowScheduleContext) (detail : WorkflowDetail) : Prop :=
  ∀ time ∈ historyTimes context detail, withinDates time = true

/-- The clone gets the mode and the anchor of the template: a time of its own, or of its plan, after
the year 2000, or else no such time in its plan and the minute of the template's creation. -/
def SameContext (now : ℕ) (loaded : WorkflowDetail) (displayed : DisplayedWorkflow)
    (offsetMs : Number) : Prop :=
  let planned :=
    ∃ assignment ∈ rawAssignments loaded, looksLikeAbsoluteTimestamp
      (parseNumber assignment.startTime) ∨
    looksLikeAbsoluteTimestamp (parseNumber assignment.endTime)
  match displayed.scheduleMode with
  | .absoluteMs =>
    planned ∨ ∃ task ∈ displayed.tasks, looksLikeAbsoluteTimestamp
      (task.requestedTimeMs + offsetMs) ∨
      looksLikeAbsoluteTimestamp (shiftIfSet task.latestStartTimeMs offsetMs) ∨
      looksLikeAbsoluteTimestamp (shiftIfSet task.deadlineMs offsetMs)
  | .relativeMinutes =>
    ¬planned ∧ displayed.scheduleAnchorMs = some (scheduleAnchorMs now loaded.summary)

def IsDouble (value : Number) : Prop := ∃ q, value = .finite q ∧ double q = q

section Numbers

variable {browser : Browser} {context : WorkflowScheduleContext} {zeroMeansUnset : Bool}
variable {value : Number} {n : ℤ}

theorem isDouble_double (q : ℚ) : IsDouble (.finite (double q)) := ⟨_, rfl, double_double q⟩

theorem isDouble_zero : IsDouble .zero := ⟨0, rfl, double_zero⟩

theorem isDouble_add {p q : Number} (hp : IsDouble p) (hq : IsDouble q) : IsDouble (p + q) := by
  obtain ⟨p, rfl, -⟩ := hp
  obtain ⟨q, rfl, -⟩ := hq
  exact isDouble_double _

theorem isDouble_sub {p q : Number} (hp : p.isFinite) (hq : IsDouble q) : IsDouble (p - q) := by
  obtain ⟨q, rfl, -⟩ := hq
  cases p with
  | nan => nomatch hp
  | finite p => exact isDouble_double _

theorem isDouble_toDisplayTimestamp
    (hcontext : context = { mode := .absoluteMs } ∨ ∃ k, context = minutesFrom k) :
    IsDouble (toDisplayTimestamp (parseNumber n) context zeroMeansUnset) := by
  rcases hcontext with rfl | ⟨k, rfl⟩
  · exact isDouble_double _
  · simp only [toDisplayTimestamp, minutesFrom]
    split_ifs
    · exact isDouble_zero
    · exact isDouble_double _

theorem isDouble_toDisplayDurationMs
    (hcontext : context = { mode := .absoluteMs } ∨ ∃ k, context = minutesFrom k) :
    IsDouble (toDisplayDurationMs (parseNumber n) context) := by
  rcases hcontext with rfl | ⟨k, rfl⟩
  · exact isDouble_double _
  · exact isDouble_double _

theorem isDouble_shiftIfSet {offsetMs : Number} (hvalue : IsDouble value)
    (hoffset : IsDouble offsetMs) :
    IsDouble (shiftIfSet value offsetMs) := by
  rw [shiftIfSet]
  split_ifs
  · exact isDouble_add hvalue hoffset
  · exact isDouble_zero

theorem parseNumber_of_readInt64 (hvalue : IsDouble value)
    (h : readInt64 (numberText value) = some n) :
    parseNumber n = value := by
  obtain ⟨q, rfl, hq⟩ := hvalue
  rw [parseNumber, double_of_readInt64 hq h]

theorem accepted_iff (hvalue : IsDouble value) :
    Accepted value ↔ ∃ n, readInt64 (numberText value) = some n ∧ parseNumber n = value := by
  rw [Accepted, Option.isSome_iff_exists]
  exact ⟨fun ⟨n, hn⟩ => ⟨n, hn, parseNumber_of_readInt64 hvalue hn⟩, fun ⟨n, hn, _⟩ => ⟨n, hn⟩⟩

theorem durationReturns_iff (hvalue : IsDouble value) :
    DurationReturns context value ↔
      ∃ n, readInt64 (numberText (fromDisplayDurationMs value context)) = some n ∧
        toDisplayDurationMs (parseNumber n) context = value := by
  obtain ⟨mode, anchorMs⟩ := context
  cases mode with
  | absoluteMs => exact accepted_iff hvalue
  | relativeMinutes => exact Iff.rfl

theorem nonneg_of_readInt64_fromDisplayTimestamp {k : ℕ}
    (h : readInt64 (numberText (fromDisplayTimestamp value (minutesFrom k) zeroMeansUnset)) =
      some n) : 0 ≤ n := by
  have hinteger : ∀ m : ℤ, 0 ≤ m → readInt64 (numberText (.finite m)) = some n → 0 ≤ n := by
    intro m hm hread
    by_contra hneg
    have heq := (readInt64_eq_some_iff hm (by omega)).mp hread
    omega
  simp only [fromDisplayTimestamp, minutesFrom, Option.getD_some] at h
  split_ifs at h
  · exact hinteger 0 le_rfl (by exact_mod_cast h)
  · cases value with
    | nan => cases h
    | finite q =>
      rw [Number.finite_sub, minuteInMs, Number.finite_div, Number.round_finite, Number.zero,
        Number.max_finite, ← Int.cast_zero, ← Int.cast_max] at h
      exact hinteger _ (le_max_left _ _) h

theorem timeReturns_iff
    (hcontext : context = { mode := .absoluteMs } ∨ ∃ k, context = minutesFrom k)
    (hvalue : IsDouble value) :
    TimeReturns context zeroMeansUnset value ↔
      (formatDateTime browser value).isSome ∧
        ∃ n, readInt64 (numberText (fromDisplayTimestamp value context zeroMeansUnset)) = some n ∧
          toDisplayTimestamp (parseNumber n) context zeroMeansUnset = value := by
  rcases hcontext with rfl | ⟨k, rfl⟩
  · have hformat : value.le (.finite lastDate) ↔ (formatDateTime browser value).isSome := by
      obtain ⟨q, rfl, -⟩ := hvalue
      rw [Number.le_finite, decide_eq_true_iff, formatDateTime_isSome_iff]
    exact and_congr hformat (accepted_iff hvalue)
  · have hlast : lastDate < 2 ^ 53 := by norm_num [lastDate]
    constructor
    · rintro (⟨rfl, rfl⟩ | ⟨anchor, minutes, hanchor, hset, rfl, hle⟩)
      · exact ⟨rfl, 0, readInt64_zero, toDisplayTimestamp_unset⟩
      · obtain rfl := Number.finite.inj (Option.some.inj hanchor)
        have hnonneg : (0 : ℤ) ≤ minutes := by positivity
        have hpos : zeroMeansUnset = true → 0 < (minutes : ℤ) := fun h => by exact_mod_cast hset h
        obtain ⟨htime, hlt, hshown, hback⟩ :=
          minutes_return (k := k) hnonneg hpos (hle.trans_lt hlast)
        rw [Int.cast_natCast] at htime
        refine ⟨formatDateTime_isSome_iff.mpr hle, minutes, ?_, ?_⟩
        · rw [htime, hback]
          exact readInt64_of_lt (by rw [abs_of_nonneg hnonneg]; omega)
        · rw [htime, hshown]
    · rintro ⟨hformat, n, hread, hshown⟩
      have hnonneg := nonneg_of_readInt64_fromDisplayTimestamp hread
      by_cases hunset : zeroMeansUnset = true ∧ n = 0
      · obtain ⟨rfl, rfl⟩ := hunset
        exact Or.inl ⟨rfl, hshown.symm.trans toDisplayTimestamp_unset⟩
      · have hset : zeroMeansUnset = true → 0 < n := fun h =>
          lt_of_le_of_ne hnonneg fun hzero => hunset ⟨h, hzero.symm⟩
        rw [toDisplayTimestamp_minutesFrom hset] at hshown
        rw [← hshown, formatDateTime_isSome_iff] at hformat
        obtain ⟨minutes, rfl⟩ := Int.eq_ofNat_of_zero_le hnonneg
        have hsmall : double (k * 60000) + ((minutes : ℤ) : ℚ) * 60000 < 2 ^ 53 := by
          by_contra hlarge
          exact absurd (hformat.trans_lt hlast)
            (not_lt.mpr (shown_of_le hnonneg (not_lt.mp hlarge)))
        obtain ⟨htime, -, -⟩ := minutes_return hnonneg hset hsmall
        rw [(shown_of_lt hnonneg hsmall).2, ← htime, Int.cast_natCast] at hformat hshown
        exact Or.inr ⟨_, minutes, rfl, fun h => by exact_mod_cast hset h, hshown.symm, hformat⟩

end Numbers

section Task

variable {browser : Browser} {context : WorkflowScheduleContext} {value : TaskConfig}
variable {task shifted : WorkflowTask}
  {offsetMs : Number}

theorem shiftTaskSchedule_eq_some_iff :
    shiftTaskSchedule browser offsetMs task = some shifted ↔
      ∃ requestedAt latestStartAt deadlineAt,
        formatDateTime browser (task.requestedTimeMs + offsetMs) = some requestedAt ∧
          formatIfSet browser (shiftIfSet task.latestStartTimeMs offsetMs) = some latestStartAt ∧
          formatIfSet browser (shiftIfSet task.deadlineMs offsetMs) = some deadlineAt ∧
          shifted = { task with
            requestedTimeMs := task.requestedTimeMs + offsetMs, requestedAt
            latestStartTimeMs := shiftIfSet task.latestStartTimeMs offsetMs, latestStartAt
            deadlineMs := shiftIfSet task.deadlineMs offsetMs, deadlineAt } := by
  simp only [shiftTaskSchedule, Option.bind_eq_bind, Option.bind_eq_some_iff, Option.pure_def,
    Option.some.injEq]
  constructor
  · rintro ⟨requestedAt, hrequested, latestStartAt, hlatest, deadlineAt, hdeadline, rfl⟩
    exact ⟨requestedAt, latestStartAt, deadlineAt, hrequested, hlatest, hdeadline, rfl⟩
  · rintro ⟨requestedAt, latestStartAt, deadlineAt, hrequested, hlatest, hdeadline, rfl⟩
    exact ⟨requestedAt, hrequested, latestStartAt, hlatest, deadlineAt, hdeadline, rfl⟩

/-- A shifted task is submitted, and what the server reads is shown as the shifted task. -/
def Returns (browser : Browser) (context : WorkflowScheduleContext) (offsetMs : Number)
    (task shifted : WorkflowTask) (read : TaskConfig) : Prop :=
  shiftTaskSchedule browser offsetMs task = some shifted ∧ readTask (toTaskPayload shifted) =
    some read ∧ mapWorkflowTask browser read context = some shifted

theorem parseNumber_sentNumber {n : ℤ} (h : (reprinted n).isSome) :
    parseNumber (sentNumber n) = parseNumber n := by
  obtain ⟨sent, hsent⟩ := Option.isSome_iff_exists.mp h
  rw [sentNumber, hsent, Option.getD_some]
  exact parseNumber_of_readInt64 (isDouble_double _) hsent

theorem scheduleContext_of_shown (hmode : task.scheduleMode = some context.mode)
    (hanchor : task.scheduleAnchorMs = context.anchorMs) : task.scheduleContext = context := by
  rw [WorkflowTask.scheduleContext, hmode, hanchor]
  rfl

theorem taskReturns_of_returns {read : TaskConfig}
    (hcontext : context = { mode := .absoluteMs } ∨ ∃ k, context = minutesFrom k)
    (hshown : ShownAs browser context value task) (hoffset : IsDouble offsetMs)
    (h : Returns browser context offsetMs task shifted read) :
    TaskReturns context offsetMs task := by
  obtain ⟨hshift, hread, hreturn⟩ := h
  obtain ⟨requestedAt, latestStartAt, deadlineAt, hrequestedAt, hlatestStartAt, hdeadlineAt, rfl⟩ :=
    shiftTaskSchedule_eq_some_iff.mp hshift
  rw [readTask_eq_some_iff] at hread
  rw [mapWorkflowTask_eq_some_iff] at hreturn
  obtain ⟨⟩ := task
  obtain ⟨rfl, rfl, -, rfl, rfl, rfl, -, rfl, -, rfl, rfl, rfl, rfl, rfl, rfl, rfl, rfl, rfl, rfl,
      rfl, rfl, rfl, rfl,
    rfl, rfl⟩ := hshown
  simp only [toTaskPayload] at hread
  rw [scheduleContext_of_shown rfl rfl] at hread
  exact {
    requestedTime :=
    (timeReturns_iff hcontext (isDouble_add (isDouble_toDisplayTimestamp hcontext) hoffset)).mpr
      ⟨by rw [hrequestedAt]; rfl, read.requestedTime, hread.requestedTime,
        hreturn.requestedTimeMs.symm⟩
    latestStartTime :=
      (timeReturns_iff hcontext
        (isDouble_shiftIfSet (isDouble_toDisplayTimestamp hcontext) hoffset)).mpr
        ⟨formatIfSet_isSome_iff.mp (by rw [hlatestStartAt]; rfl), read.latestStartTime,
          hread.latestStartTime, hreturn.latestStartTimeMs.symm⟩
    deadline :=
      (timeReturns_iff hcontext
        (isDouble_shiftIfSet (isDouble_toDisplayTimestamp hcontext) hoffset)).mpr
      ⟨formatIfSet_isSome_iff.mp (by rw [hdeadlineAt]; rfl), read.deadline, hread.deadline,
        hreturn.deadlineMs.symm⟩
    duration := (durationReturns_iff (isDouble_toDisplayDurationMs hcontext)).mpr
      ⟨read.duration, hread.duration, hreturn.durationMs.symm⟩
    priority := Option.isSome_iff_exists.mpr ⟨read.priority, hread.priority⟩
    actorDistances := by
      have hall :=
        (mapM_savedDistance_eq_some_iff.mp
          ((mapM_savedDistance _).symm.trans hread.actorDistances)).1
      intro distance hdistance
      obtain ⟨d, hd, rfl⟩ := List.mem_map.mp hdistance
      exact hall d hd
    phaseDurations := by
      have hall :=
        (mapM_reprinted_eq_some_iff.mp ((mapM_reprinted _).symm.trans hread.phaseDurations)).1
      intro duration hduration
      obtain ⟨d, hd, rfl⟩ := List.mem_map.mp hduration
      exact hall d hd }

theorem exists_returns (hcontext : context = { mode := .absoluteMs } ∨ ∃ k, context = minutesFrom k)
    (hshown : ShownAs browser context value task) (hoffset : IsDouble offsetMs)
    (hdemand : ∀ n ∈ value.demand, -2 ^ 31 ≤ n ∧ n ≤ 2 ^ 31 - 1)
    (h : TaskReturns context offsetMs task) :
    ∃ shifted read, Returns browser context offsetMs task shifted read := by
  have hrequestedDouble : IsDouble task.requestedTimeMs :=
    hshown.requestedTimeMs ▸ isDouble_toDisplayTimestamp hcontext
  have hlatestDouble : IsDouble task.latestStartTimeMs :=
    hshown.latestStartTimeMs ▸ isDouble_toDisplayTimestamp hcontext
  have hdeadlineDouble : IsDouble task.deadlineMs :=
    hshown.deadlineMs ▸ isDouble_toDisplayTimestamp hcontext
  have hdurationDouble : IsDouble task.durationMs :=
    hshown.durationMs ▸ isDouble_toDisplayDurationMs hcontext
  have hpriorityDouble : IsDouble task.priority := hshown.priority ▸ isDouble_double _
  obtain ⟨hrequestedAt, requestedTime, hrequestedRead, hrequestedShown⟩ :=
    (@timeReturns_iff browser _ _ _ hcontext (isDouble_add hrequestedDouble hoffset)).mp
      h.requestedTime
  obtain ⟨hlatestAt, latestStartTime, hlatestRead, hlatestShown⟩ :=
    (@timeReturns_iff browser _ _ _ hcontext (isDouble_shiftIfSet hlatestDouble hoffset)).mp
      h.latestStartTime
  obtain ⟨hdeadlineAt, deadline, hdeadlineRead, hdeadlineShown⟩ :=
    (@timeReturns_iff browser _ _ _ hcontext (isDouble_shiftIfSet hdeadlineDouble hoffset)).mp
      h.deadline
  obtain ⟨duration, hdurationRead, hdurationShown⟩ :=
    (durationReturns_iff hdurationDouble).mp h.duration
  obtain ⟨priority, hpriorityRead, hpriorityShown⟩ := (accepted_iff hpriorityDouble).mp h.priority
  rw [← formatIfSet_isSome_iff] at hlatestAt hdeadlineAt
  obtain ⟨requestedAt, hrequestedAt⟩ := Option.isSome_iff_exists.mp hrequestedAt
  obtain ⟨latestStartAt, hlatestAt⟩ := Option.isSome_iff_exists.mp hlatestAt
  obtain ⟨deadlineAt, hdeadlineAt⟩ := Option.isSome_iff_exists.mp hdeadlineAt
  have hdistances : ∀ d ∈ value.actorDistances, (reprinted d.distance).isSome := fun d hd =>
    h.actorDistances (mapActorDistance d)
      (by rw [hshown.actorDistances]; exact List.mem_map_of_mem hd)
  have hphases : ∀ d ∈ value.phaseDurations, (reprinted d).isSome := fun d hd =>
    h.phaseDurations (parseNumber d) (by rw [hshown.phaseDurations]; exact List.mem_map_of_mem hd)
  refine ⟨_, { value with
    requestedTime
    duration
    latestStartTime
    deadline
    priority
    mandatory := some task.mandatory
    preemptible := some task.preemptible
    actorDistances := value.actorDistances.map fun d => { d with distance := sentNumber d.distance }
    phaseDurations := value.phaseDurations.map sentNumber }, shiftTaskSchedule_eq_some_iff.mpr
      ⟨requestedAt, latestStartAt, deadlineAt, hrequestedAt, hlatestAt, hdeadlineAt, rfl⟩,
      readTask_eq_some_iff.mpr ?_,
    mapWorkflowTask_eq_some_iff.mpr ?_⟩
  · have hsame : ∀ other : WorkflowTask, other.scheduleMode = task.scheduleMode →
        other.scheduleAnchorMs = task.scheduleAnchorMs → other.scheduleContext = context :=
        fun other hmode hanchor =>
      scheduleContext_of_shown (hmode.trans hshown.scheduleMode)
        (hanchor.trans hshown.scheduleAnchorMs)
    simp only [toTaskPayload]
    rw [hsame]
    · exact {
        id := hshown.id.symm
        requestedTime := hrequestedRead
        duration := hdurationRead
        latestStartTime := hlatestRead
        deadline := hdeadlineRead
        priority := hpriorityRead
        demand := by rw [hshown.demand, readOptionalInt32_parseNumber hdemand]
        mandatory := rfl
        preemptible := rfl
        allowedActorTypes := hshown.allowedActorTypes.symm
        allowedActorIds := hshown.allowedActorIds.symm
        preferredActorIds := hshown.preferredActorIds.symm
        requiredCapabilities := hshown.requiredCapabilities.symm
        dependencyTaskIds := hshown.dependencyTaskIds.symm
        mutuallyExclusiveTaskIds := hshown.mutuallyExclusiveTaskIds.symm
        actorDistances := by
          rw [hshown.actorDistances, mapM_savedDistance, mapM_savedDistance_eq_some_iff]
          exact ⟨hdistances, rfl⟩
        tardinessCostPerUnit := hshown.tardinessCostPerUnit.symm
        earlyStartBonus := hshown.earlyStartBonus.symm
        phaseDurations := by
          rw [hshown.phaseDurations, mapM_reprinted, mapM_reprinted_eq_some_iff]
          exact ⟨hphases, rfl⟩ }
    · rfl
    · rfl
  · exact {
      id := hshown.id
      requestedTimeMs := hrequestedShown.symm
      requestedAt := hrequestedAt
      durationMs := hdurationShown.symm
      durationMinutes := by rw [hdurationShown, hshown.durationMinutes, hshown.durationMs]
      latestStartTimeMs := hlatestShown.symm
      latestStartAt := hlatestAt
      deadlineMs := hdeadlineShown.symm
      deadlineAt := hdeadlineAt
      scheduleMode := hshown.scheduleMode
      scheduleAnchorMs := hshown.scheduleAnchorMs
      priority := hpriorityShown.symm
      demand := hshown.demand
      mandatory := by cases task.mandatory <;> rfl
      preemptible := by cases task.preemptible <;> rfl
      allowedActorTypes := hshown.allowedActorTypes
      allowedActorIds := hshown.allowedActorIds
      preferredActorIds := hshown.preferredActorIds
      requiredCapabilities := hshown.requiredCapabilities
      dependencyTaskIds := hshown.dependencyTaskIds
      mutuallyExclusiveTaskIds := hshown.mutuallyExclusiveTaskIds
      actorDistances := by
        rw [hshown.actorDistances, List.map_map]
        refine List.map_congr_left fun d hd => ?_
        rw [Function.comp_apply, mapActorDistance, mapActorDistance,
          parseNumber_sentNumber (hdistances d hd)]
      tardinessCostPerUnit := hshown.tardinessCostPerUnit
      earlyStartBonus := hshown.earlyStartBonus
      phaseDurations := by
        rw [hshown.phaseDurations, List.map_map]
        exact List.map_congr_left fun d hd => (parseNumber_sentNumber (hphases d hd)).symm }

end Task

def Shown (browser : Browser) (context : WorkflowScheduleContext) (task : WorkflowTask) : Prop :=
  ∃ value, ShownAs browser context value task ∧ ∀ n ∈ value.demand, -2 ^ 31 ≤ n ∧ n ≤ 2 ^ 31 - 1

section Tasks

variable {browser : Browser} {context : WorkflowScheduleContext} {tasks shifted : List WorkflowTask}
  {read : List TaskConfig} {offsetMs : Number}

/-- All tasks are submitted, and what the server reads is shown as the shifted tasks. -/
def AllReturn (browser : Browser) (context : WorkflowScheduleContext) (offsetMs : Number)
    (tasks shifted : List WorkflowTask) (read : List TaskConfig) : Prop :=
  tasks.mapM (shiftTaskSchedule browser offsetMs) = some shifted ∧
    (shifted.map toTaskPayload).mapM readTask = some read ∧
    read.mapM (fun task => mapWorkflowTask browser task context) = some shifted

theorem forall₂_returns (h : AllReturn browser context offsetMs tasks shifted read) :
    List.Forall₂
    (fun task value => ∃ other, Returns browser context offsetMs task other value) tasks read := by
  obtain ⟨hshift, hread, hreturn⟩ := h
  rw [List.mapM_map, mapM_eq_some_iff] at hread
  rw [mapM_eq_some_iff] at hshift hreturn
  induction hshift generalizing read with
  | nil =>
    cases hread
    exact List.Forall₂.nil
  | cons hfirst _ ih =>
    cases hread with
    | cons hfirstRead hrestRead =>
      cases hreturn with
      | cons hfirstReturn hrestReturn =>
        exact List.Forall₂.cons ⟨_, hfirst, hfirstRead, hfirstReturn⟩ (ih hrestRead hrestReturn)

theorem taskReturns_of_allReturn
    (hcontext : context = { mode := .absoluteMs } ∨ ∃ k, context = minutesFrom k)
    (hoffset : IsDouble offsetMs) (hshown : ∀ task ∈ tasks, Shown browser context task)
    (h : AllReturn browser context offsetMs tasks shifted read) :
    ∀ task ∈ tasks, TaskReturns context offsetMs task := by
  have hreturns := (List.forall₂_and_left _ _).mpr ⟨hshown, forall₂_returns h⟩
  refine ((List.forall₂_and_left (R := fun _ _ => True) _ _).mp
    (hreturns.imp fun task value hpair => ?_)).1
  obtain ⟨⟨stored, hstored, -⟩, _, hreturn⟩ := hpair
  exact ⟨taskReturns_of_returns hcontext hstored hoffset hreturn, trivial⟩

theorem exists_allReturn
    (hcontext : context = { mode := .absoluteMs } ∨ ∃ k, context = minutesFrom k)
    (hoffset : IsDouble offsetMs) (hshown : ∀ task ∈ tasks, Shown browser context task)
    (h : ∀ task ∈ tasks, TaskReturns context offsetMs task) :
    ∃ shifted read, AllReturn browser context offsetMs tasks shifted read := by
  induction tasks with
  | nil => exact ⟨[], [], rfl, rfl, rfl⟩
  | cons task rest ih =>
    obtain ⟨⟨value, hvalue, hdemand⟩, hrestShown⟩ := List.forall_mem_cons.mp hshown
    obtain ⟨hfirst, hrest⟩ := List.forall_mem_cons.mp h
    obtain ⟨shiftedTask, readFirst, hfirstShift, hfirstRead, hfirstReturn⟩ :=
      exists_returns hcontext hvalue hoffset hdemand hfirst
    obtain ⟨shifted, read, hshift, hread, hreturn⟩ := ih hrestShown hrest
    refine ⟨shiftedTask :: shifted, readFirst :: read, ?_, ?_, ?_⟩
    · simp [hfirstShift, hshift]
    · simp only [List.map_cons, List.mapM_cons, hfirstRead, hread]
      rfl
    · simp [hfirstReturn, hreturn]

theorem not_absolute_of_format {k : ℕ} {n : ℤ} {zeroMeansUnset : Bool}
    (hformat : (formatDateTime browser
      (toDisplayTimestamp (parseNumber n) (minutesFrom k) zeroMeansUnset)).isSome) :
    ¬looksLikeAbsoluteTimestamp (parseNumber n) = true := by
  intro habsolute
  have hfloor : (946684800000 : ℚ) ≤ double n := by
    simpa [looksLikeAbsoluteTimestamp, absoluteTimeFloorMs, parseNumber] using habsolute
  have hpos : 0 < n := by
    by_contra hneg
    have hmono := double_mono (show ((n : ℤ) : ℚ) ≤ ((0 : ℤ) : ℚ) by exact_mod_cast not_lt.mp hneg)
    rw [Int.cast_zero, double_zero] at hmono
    linarith
  have hanchor : 0 ≤ double (k * 60000) := double_nonneg (by positivity)
  have hscaled := le_double (show (2 : ℚ) ^ 53 ≤ double n * 60000 by norm_num; linarith)
  have hshown :=
    le_double (show (2 : ℚ) ^ 53 ≤ double (k * 60000) + double (double n * 60000) by linarith)
  rw [toDisplayTimestamp_minutesFrom fun _ => hpos, formatDateTime_isSome_iff] at hformat
  have hlast : lastDate < 2 ^ 53 := by norm_num [lastDate]
  linarith

def ReadsAbsolute (value : TaskConfig) : Prop :=
  looksLikeAbsoluteTimestamp (parseNumber value.requestedTime) ∨
    looksLikeAbsoluteTimestamp (parseNumber value.latestStartTime) ∨
    looksLikeAbsoluteTimestamp (parseNumber value.deadline)

theorem any_timeCandidates_iff {assignments : List Assignment} :
    (timeCandidates read assignments).any looksLikeAbsoluteTimestamp = true ↔
      (∃ assignment ∈ assignments, looksLikeAbsoluteTimestamp (parseNumber assignment.startTime) ∨
        looksLikeAbsoluteTimestamp (parseNumber assignment.endTime)) ∨
          ∃ task ∈ read, ReadsAbsolute task := by
  have hset : ∀ value : Number, looksLikeAbsoluteTimestamp value = true →
      Number.zero.lt value = true := by
    intro value hvalue
    cases value with
    | nan => nomatch hvalue
    | finite q =>
      have hfloor : (946684800000 : ℚ) ≤ q := by
        simpa [looksLikeAbsoluteTimestamp, absoluteTimeFloorMs] using hvalue
      simp only [Number.zero, Number.lt_finite, decide_eq_true_eq]
      linarith
  simp only [timeCandidates, List.any_eq_true, List.mem_filter, List.mem_append, List.mem_flatMap,
    List.mem_cons, List.not_mem_nil, or_false]
  constructor
  · rintro ⟨value, ⟨⟨task, htask, hvalue⟩ | ⟨assignment, hassignment, hvalue⟩, -⟩, habsolute⟩
    · refine Or.inr ⟨task, htask, ?_⟩
      rcases hvalue with rfl | rfl | rfl <;> simp [ReadsAbsolute, habsolute]
    · refine Or.inl ⟨assignment, hassignment, ?_⟩
      rcases hvalue with rfl | rfl <;> simp [habsolute]
  · rintro (⟨assignment, hassignment, h | h⟩ | ⟨task, htask, h | h | h⟩)
    · exact ⟨_, ⟨Or.inr ⟨assignment, hassignment, Or.inl rfl⟩, hset _ h⟩, h⟩
    · exact ⟨_, ⟨Or.inr ⟨assignment, hassignment, Or.inr rfl⟩, hset _ h⟩, h⟩
    · exact ⟨_, ⟨Or.inl ⟨task, htask, Or.inl rfl⟩, hset _ h⟩, h⟩
    · exact ⟨_, ⟨Or.inl ⟨task, htask, Or.inr (Or.inl rfl)⟩, hset _ h⟩, h⟩
    · exact ⟨_, ⟨Or.inl ⟨task, htask, Or.inr (Or.inr rfl)⟩, hset _ h⟩, h⟩

theorem readsAbsolute_iff_of_returns {task other : WorkflowTask} {value : TaskConfig}
    (h : Returns browser { mode := .absoluteMs } offsetMs task other value) :
    looksLikeAbsoluteTimestamp (task.requestedTimeMs + offsetMs) ∨
        looksLikeAbsoluteTimestamp (shiftIfSet task.latestStartTimeMs offsetMs) ∨
        looksLikeAbsoluteTimestamp (shiftIfSet task.deadlineMs offsetMs) ↔ ReadsAbsolute value := by
  obtain ⟨hshift, -, hreturn⟩ := h
  rw [mapWorkflowTask_eq_some_iff] at hreturn
  obtain ⟨_, _, _, -, -, -, rfl⟩ := shiftTaskSchedule_eq_some_iff.mp hshift
  have hrequested : task.requestedTimeMs + offsetMs = parseNumber value.requestedTime :=
    hreturn.requestedTimeMs
  have hlatest : shiftIfSet task.latestStartTimeMs offsetMs = parseNumber value.latestStartTime :=
    hreturn.latestStartTimeMs
  have hdeadline : shiftIfSet task.deadlineMs offsetMs = parseNumber value.deadline :=
    hreturn.deadlineMs
  rw [hrequested, hlatest, hdeadline, ReadsAbsolute]

theorem not_readsAbsolute_of_returns {k : ℕ} {task other : WorkflowTask} {value : TaskConfig}
    (h : Returns browser (minutesFrom k) offsetMs task other value) : ¬ReadsAbsolute value := by
  have hreturn := mapWorkflowTask_eq_some_iff.mp h.2.2
  have hrequested := hreturn.requestedAt
  have hlatest := hreturn.latestStartAt
  have hdeadline := hreturn.deadlineAt
  rw [hreturn.requestedTimeMs] at hrequested
  rw [hreturn.latestStartTimeMs] at hlatest
  rw [hreturn.deadlineMs] at hdeadline
  rintro (habsolute | habsolute | habsolute)
  · exact not_absolute_of_format (by rw [hrequested]; rfl) habsolute
  · exact not_absolute_of_format (formatIfSet_isSome_iff.mp (by rw [hlatest]; rfl)) habsolute
  · exact not_absolute_of_format (formatIfSet_isSome_iff.mp (by rw [hdeadline]; rfl)) habsolute

/-- The clone is shown in the context of the template just if it has the same mode and anchor. -/
theorem sameContext_iff {now : ℕ} {loaded : WorkflowDetail} {displayed : DisplayedWorkflow}
    (hcontext : context = { mode := .absoluteMs } ∨ ∃ k, context = minutesFrom k)
    (hmode : displayed.scheduleMode = context.mode)
    (hanchor : displayed.scheduleAnchorMs = context.anchorMs) (hne : displayed.tasks ≠ [])
    (h : AllReturn browser context offsetMs displayed.tasks shifted read) :
    deriveScheduleContext now loaded.summary read (rawAssignments loaded) = context ↔
      SameContext now loaded displayed offsetMs := by
  have hreturns := forall₂_returns h
  have hread : read.isEmpty = false := by
    cases hread : read with
    | nil =>
      rw [hread] at hreturns
      exact absurd (List.forall₂_nil_right_iff.mp hreturns) hne
    | cons => rfl
  have hcandidates := @any_timeCandidates_iff read (rawAssignments loaded)
  simp only [deriveScheduleContext, hread, Bool.false_and, Bool.false_eq_true, if_false,
    SameContext, hmode, hanchor]
  rcases hcontext with rfl | ⟨k, rfl⟩
  · have htasks := exists_mem_iff_of_forall₂ hreturns fun task value hreturn =>
      hreturn.elim fun _ h => readsAbsolute_iff_of_returns h
    rw [← htasks] at hcandidates
    rw [← hcandidates]
    split_ifs with hany
    · exact iff_of_true rfl hany
    · refine iff_of_false (fun heq => ?_) hany
      cases congrArg WorkflowScheduleContext.mode heq
  · have htasks : ¬∃ value ∈ read, ReadsAbsolute value := by
      rintro ⟨value, hvalue, habsolute⟩
      have hall := forall_mem_of_forall₂ (p := fun _ => True) hreturns (fun _ _ => trivial)
        fun task value hreturn _ =>
        hreturn.elim fun _ h => not_readsAbsolute_of_returns h
      exact hall value hvalue habsolute
    rw [or_iff_left htasks] at hcandidates
    rw [← hcandidates]
    split_ifs with hany
    · refine iff_of_false (fun heq => ?_) fun h => h.1 hany
      cases congrArg WorkflowScheduleContext.mode heq
    · rw [minutesFrom, WorkflowScheduleContext.mk.injEq]
      exact ⟨fun heq => ⟨hany, heq.2.symm⟩, fun h => ⟨rfl, h.2.symm⟩⟩

end Tasks

section Order

variable {tasks shifted : List WorkflowTask}

def startOf (task : WorkflowTask) : ℚ :=
  match task.requestedTimeMs with
  | .finite q => q
  | .nan => 0

theorem startsNoLater_iff {left right : WorkflowTask} (hleft : IsDouble left.requestedTimeMs)
    (hright : IsDouble right.requestedTimeMs) :
    startsNoLater left right = decide (startOf left ≤ startOf right) := by
  obtain ⟨p, hp, -⟩ := hleft
  obtain ⟨q, hq, -⟩ := hright
  simp only [startsNoLater, startOf, hp, hq, Number.lt_finite, ← decide_not, not_lt]

theorem pairwise_mergeSort_startsNoLater (h : ∀ task ∈ tasks, IsDouble task.requestedTimeMs) :
    (tasks.mergeSort startsNoLater).Pairwise fun left right => startsNoLater left right = true := by
  have hsame : tasks.mergeSort startsNoLater = tasks.mergeSort fun left right =>
      startOf left ≤ startOf right := by
    have hmap :=
      List.map_mergeSort (f := id) (s := fun left right => decide (startOf left ≤ startOf right))
      fun left hleft right hright => startsNoLater_iff (h left hleft) (h right hright)
    simpa using hmap
  have hsorted : (tasks.mergeSort fun left right => startOf left ≤ startOf right).Pairwise
      fun left right =>
      decide (startOf left ≤ startOf right) = true :=
    List.pairwise_mergeSort
      (fun a b c hab hbc => by simpa using le_trans (by simpa using hab) (by simpa using hbc))
      (fun a b => by simpa using le_total (startOf a) (startOf b)) tasks
  rw [hsame]
  refine hsorted.imp_of_mem fun hleft hright hle => ?_
  rw [startsNoLater_iff (h _ (List.mem_mergeSort.mp hleft)) (h _ (List.mem_mergeSort.mp hright)),
    hle]

theorem pairwise_shifted {browser : Browser} {offsetMs : Number} (hoffset : IsDouble offsetMs)
    (h : ∀ task ∈ tasks, IsDouble task.requestedTimeMs)
    (hsorted : tasks.Pairwise fun left right => startsNoLater left right = true)
    (hshift : tasks.mapM (shiftTaskSchedule browser offsetMs) = some shifted) :
    shifted.Pairwise fun left right => startsNoLater left right = true := by
  have hpairs : tasks.Pairwise fun left right => IsDouble left.requestedTimeMs ∧
      IsDouble right.requestedTimeMs ∧
      startsNoLater left right = true := hsorted.imp_of_mem fun hleft hright hle =>
        ⟨h _ hleft, h _ hright, hle⟩
  refine pairwise_of_forall₂ (mapM_eq_some_iff.mp hshift) hpairs
    fun left left' right right' hleft hright hle => ?_
  obtain ⟨hleftDouble, hrightDouble, hle⟩ := hle
  obtain ⟨_, _, _, -, -, -, rfl⟩ := shiftTaskSchedule_eq_some_iff.mp hleft
  obtain ⟨_, _, _, -, -, -, rfl⟩ := shiftTaskSchedule_eq_some_iff.mp hright
  obtain ⟨p, hp, -⟩ := hleftDouble
  obtain ⟨q, hq, -⟩ := hrightDouble
  obtain ⟨o, rfl, -⟩ := hoffset
  simp only [startsNoLater, hp, hq, Number.finite_add, Number.lt_finite, ← decide_not, not_lt,
    decide_eq_true_eq] at hle ⊢
  exact double_mono (by linarith)

end Order

section Actors

variable {actors : List ActorConfig}

/-- What is left of an actor in the console: neither its windows nor its cost. -/
def withoutCalendar (actor : ActorConfig) : ActorConfig :=
  { actor with windows := [], executionCostPerUnit := none }

theorem readActors (h : ∀ actor ∈ actors, ∀ n ∈ actor.capacity, -2 ^ 31 ≤ n ∧ n ≤ 2 ^ 31 - 1) :
    ((actors.map mapWorkflowActor).map toActorPayload).mapM readActor =
      some (actors.map withoutCalendar) := by
  rw [List.map_map, List.mapM_map]
  refine mapM_eq_pure (m := Option) fun actor hactor => ?_
  have hcapacity := readOptionalInt32_parseNumber (h actor hactor)
  simp only [Function.comp_apply, readActor, toActorPayload, mapWorkflowActor, hcapacity,
    Option.bind_eq_bind, Option.bind_some]
  rfl

theorem toAppActor_withoutCalendar_iff {actor : ActorConfig} :
    App.toAppActor (withoutCalendar actor) = App.toAppActor actor ↔
      actor.windows = [] ∧ actor.executionCostPerUnit.getD 0 = 0 := by
  simp [App.toAppActor, withoutCalendar, eq_comm]

theorem map_toAppActor_iff :
    (actors.map withoutCalendar).map App.toAppActor = actors.map App.toAppActor ↔
      ∀ actor ∈ actors, actor.windows = [] ∧ actor.executionCostPerUnit.getD 0 = 0 := by
  rw [List.map_map, List.map_inj_left]
  exact forall₂_congr fun actor _ => toAppActor_withoutCalendar_iff

end Actors

structure FieldsOf32Bits (config : WorkflowConfig) : Prop where
  capacities : ∀ actor ∈ config.actors, ∀ n ∈ actor.capacity, -2 ^ 31 ≤ n ∧ n ≤ 2 ^ 31 - 1
  demands : ∀ task ∈ config.tasks, ∀ n ∈ task.demand, -2 ^ 31 ≤ n ∧ n ≤ 2 ^ 31 - 1

section Clone

variable {browser : Browser} {now : ℕ} {template : WorkflowDetail} {displayed : DisplayedWorkflow}

structure DisplayedAs (browser : Browser) (context : WorkflowScheduleContext)
    (template : WorkflowDetail) (displayed : DisplayedWorkflow) : Prop where
  contextCases : context = { mode := .absoluteMs } ∨ ∃ k, context = minutesFrom k
  scheduleMode : displayed.scheduleMode = context.mode
  scheduleAnchorMs : displayed.scheduleAnchorMs = context.anchorMs
  actors : displayed.actors = template.config.actors.map mapWorkflowActor
  shown : ∀ task ∈ displayed.tasks, ∃ value ∈ template.config.tasks,
    ShownAs browser context value task
  sorted : displayed.tasks.Pairwise fun left right => startsNoLater left right = true
  nonempty : template.config.tasks ≠ [] → displayed.tasks ≠ []

theorem displayedAs_of_displayWorkflow (h : displayWorkflow browser now template = some displayed) :
    ∃ context, DisplayedAs browser context template displayed := by
  simp only [displayWorkflow, Option.bind_eq_bind, Option.bind_eq_some_iff, Option.pure_def,
    Option.some.injEq] at h
  obtain ⟨history, -, tasks, htasks, rfl⟩ := h
  rw [mapM_eq_some_iff] at htasks
  have hcases :=
    deriveScheduleContext_cases now template.summary template.config.tasks (rawAssignments template)
  have hshown : ∀ task ∈ tasks, ∃ value ∈ template.config.tasks, ShownAs browser
      (deriveScheduleContext now template.summary template.config.tasks (rawAssignments template))
        value task := by
    have hself : ∀ value ∈ template.config.tasks, value ∈ template.config.tasks := fun _ h => h
    exact forall_mem_of_forall₂ htasks hself fun value task hmap hvalue =>
      ⟨value, hvalue, mapWorkflowTask_eq_some_iff.mp hmap⟩
  refine ⟨_, hcases, rfl, rfl, rfl, fun task htask =>
    hshown task (List.mem_mergeSort.mp htask), ?_, ?_⟩
  · refine pairwise_mergeSort_startsNoLater fun task htask => ?_
    obtain ⟨value, -, hvalue⟩ := hshown task htask
    exact hvalue.requestedTimeMs ▸ isDouble_toDisplayTimestamp hcases
  · intro hne hnil
    have hlength := congrArg List.length hnil
    rw [List.length_mergeSort, ← htasks.length_eq] at hlength
    exact hne (List.length_eq_zero_iff.mp hlength)

theorem isDouble_templateStart {tasks : List WorkflowTask}
    (h : ∀ task ∈ tasks, IsDouble task.requestedTimeMs) (hne : tasks ≠ []) :
    ∃ start, templateStart tasks = some start ∧ IsDouble start := by
  have hfold : ∀ (rest : List WorkflowTask) (earliest : Number), IsDouble earliest →
      (∀ task ∈ rest, IsDouble task.requestedTimeMs) →
      ∃ start, rest.foldl (fun currentEarliest task =>
        match currentEarliest with
        | none => some task.requestedTimeMs
        | some earliest => some (Number.min earliest task.requestedTimeMs)) (some earliest) =
          some start ∧
        IsDouble start := by
    intro rest
    induction rest with
    | nil => exact fun earliest hearliest _ => ⟨earliest, rfl, hearliest⟩
    | cons task rest ih =>
      intro earliest hearliest hrest
      obtain ⟨htask, hrest⟩ := List.forall_mem_cons.mp hrest
      refine ih _ ?_ hrest
      obtain ⟨p, rfl, hp⟩ := hearliest
      obtain ⟨q, hq, hqDouble⟩ := htask
      rw [hq, Number.min_finite]
      rcases min_choice p q with hmin | hmin <;> rw [hmin]
      · exact ⟨p, rfl, hp⟩
      · exact ⟨q, rfl, hqDouble⟩
  cases tasks with
  | nil => exact absurd rfl hne
  | cons task rest =>
    obtain ⟨htask, hrest⟩ := List.forall_mem_cons.mp h
    exact hfold rest task.requestedTimeMs htask hrest

def DisplayedWorkflow.scheduleContext (displayed : DisplayedWorkflow) :
    WorkflowScheduleContext where
  mode := displayed.scheduleMode
  anchorMs := displayed.scheduleAnchorMs

theorem clonesShifted_iff {loaded : WorkflowDetail} {workflowId : WorkflowId}
    {scenarioAnchor : DatetimeLocal} {note : String} :
    ClonesShifted browser now template loaded displayed workflowId scenarioAnchor note ↔
      ∃ actors shifted read,
        (displayed.actors.map toActorPayload).mapM readActor = some actors ∧
          actors.map App.toAppActor = template.config.actors.map App.toAppActor ∧
          AllReturn browser (deriveScheduleContext now loaded.summary read (rawAssignments loaded))
            (scenarioOffset browser displayed true scenarioAnchor) displayed.tasks shifted read ∧
          shifted.mergeSort startsNoLater = shifted ∧
          HistoryPrints
          (deriveScheduleContext now loaded.summary read (rawAssignments loaded)) loaded := by
  constructor
  · rintro ⟨command, config, clone, hsubmit, hread, hplanner, hclone, hreturn, hshift⟩
    simp only [submitScenario, if_true, Option.bind_eq_bind, Option.bind_eq_some_iff,
      Option.pure_def, Option.some.injEq] at hsubmit
    obtain ⟨shifted, hshifted, rfl⟩ := hsubmit
    simp only [readConfig, Option.bind_eq_bind, Option.bind_eq_some_iff, Option.pure_def,
      Option.some.injEq] at hread
    obtain ⟨actors, hactors, read, hread, rfl⟩ := hread
    simp only [displayWorkflow, Option.bind_eq_bind, Option.bind_eq_some_iff, Option.pure_def,
      Option.some.injEq] at hclone
    obtain ⟨history, hhistory, mapped, hmapped, rfl⟩ := hclone
    have hsorted := Option.some.inj (hmapped.symm.trans hreturn)
    have hsame := Option.some.inj (hshifted.symm.trans hshift)
    rw [← hsorted] at hsame
    obtain rfl := hsame
    exact ⟨actors, shifted, read, hactors, hplanner, ⟨hshifted, hread, hmapped⟩, hsorted.symm,
      (prints_displayHistory browser _ _).mp (Option.isSome_of_mem hhistory)⟩
  · rintro ⟨actors, shifted, read, hactors, hplanner, ⟨hshift, hread, hreturn⟩, hsorted, hprints⟩
    have hsubmit : submitScenario browser displayed workflowId true scenarioAnchor note = some
        { workflowId := trimSpace workflowId
          actors := displayed.actors
          tasks := shifted
          note := if trimSpace note ≠ "" then some (trimSpace note) else none } := by
      simp only [submitScenario, if_true, hshift, Option.bind_eq_bind, Option.bind_some,
        Option.pure_def]
    have hconfig : readConfig
        { workflowId := trimSpace workflowId
          actors := displayed.actors
          tasks := shifted
          note := if trimSpace note ≠ "" then some (trimSpace note) else none } =
        some { id := trimSpace workflowId, actors, tasks := read } := by
      simp only [readConfig, hactors, hread, Option.bind_eq_bind, Option.bind_some, Option.pure_def]
    have hassignments : rawAssignments
        { loaded with config := { id := trimSpace workflowId, actors, tasks := read } } =
        rawAssignments loaded := rfl
    obtain ⟨history, hhistory⟩ := Option.isSome_iff_exists.mp ((prints_displayHistory browser
      (deriveScheduleContext now loaded.summary read (rawAssignments loaded))
      { loaded with config := { id := trimSpace workflowId, actors, tasks := read } }).mpr hprints)
    have hclone : displayWorkflow browser now
        { loaded with config := { id := trimSpace workflowId, actors, tasks := read } } = some
          { toDisplayedHistory := history
            scheduleMode :=
            (deriveScheduleContext now loaded.summary read (rawAssignments loaded)).mode
            scheduleAnchorMs :=
              (deriveScheduleContext now loaded.summary read (rawAssignments loaded)).anchorMs
            actors := actors.map mapWorkflowActor
            tasks := shifted } := by
      simp only [displayWorkflow, hassignments, hhistory, hreturn, Option.bind_eq_bind,
        Option.bind_some, Option.pure_def, hsorted]
    exact ⟨_, _, _, hsubmit, hconfig, hplanner, hclone, hreturn, hshift⟩

theorem contextOf_allReturn {context later : WorkflowScheduleContext} {offsetMs : Number}
    {tasks shifted : List WorkflowTask} {read : List TaskConfig} (hne : tasks ≠ [])
    (hshown : ∀ task ∈ tasks, Shown browser context task)
    (h : AllReturn browser later offsetMs tasks shifted read) : later = context := by
  have hreturns := forall₂_returns h
  cases tasks with
  | nil => exact absurd rfl hne
  | cons task rest =>
    obtain ⟨value, _, ⟨other, hshift, -, hreturn⟩, -⟩ := List.forall₂_cons_left_iff.mp hreturns
    obtain ⟨_, htask, -⟩ := hshown task List.mem_cons_self
    rw [mapWorkflowTask_eq_some_iff] at hreturn
    obtain ⟨_, _, _, -, -, -, rfl⟩ := shiftTaskSchedule_eq_some_iff.mp hshift
    have hmode := htask.scheduleMode.symm.trans hreturn.scheduleMode
    have hanchor := htask.scheduleAnchorMs.symm.trans hreturn.scheduleAnchorMs
    obtain ⟨mode, anchorMs⟩ := later
    obtain ⟨mode', anchorMs'⟩ := context
    obtain rfl := Option.some.inj hmode
    obtain rfl : anchorMs' = anchorMs := hanchor
    rfl

end Clone

section Cases

/-- A crane and its order, not planned yet. -/
def craneDetail (windows : List AvailabilityWindow) : WorkflowDetail where
  summary := {}
  config :=
    { id := "wave", actors := [{ id := "crane", type := "crane", windows }], tasks := [craneOrder] }
  latestResponse := none
  planVersions := []
  planDiff := {}
  events := []
  audits := []

theorem craneDetail_prints (windows : List AvailabilityWindow) :
    HistoryPrints { mode := .absoluteMs } (craneDetail windows) := by
  have htimes : historyTimes { mode := .absoluteMs } (craneDetail windows) = [parseNumber 0] := rfl
  intro time htime
  rw [htimes, List.mem_singleton] at htime
  rw [htime, parseNumber_of_lt le_rfl (by norm_num)]
  norm_num [withinDates, finiteOrZero, lastDate]

theorem craneDetail_displayed (windows : List AvailabilityWindow) :
    ∃ task history, ShownAs utcBrowser { mode := .absoluteMs } craneOrder task ∧
      displayWorkflow utcBrowser 0 (craneDetail windows) = some
        { toDisplayedHistory := history
          scheduleMode := .absoluteMs
          scheduleAnchorMs := none
          actors := (craneDetail windows).config.actors.map mapWorkflowActor
          tasks := [task] } := by
  have hformat : ∀ n : ℤ, 0 ≤ n → n ≤ 1700003640000 →
      (formatDateTime utcBrowser (parseNumber n)).isSome := by
    intro n hlow hhigh
    rw [parseNumber_of_lt hlow (by omega), formatDateTime_isSome_iff, lastDate]
    exact_mod_cast (by omega : n ≤ 8640000000000000)
  obtain ⟨requestedAt, hrequested⟩ :=
    Option.isSome_iff_exists.mp (hformat craneOrder.requestedTime (by decide) (by decide))
  obtain ⟨latestStartAt, hlatest⟩ := Option.isSome_iff_exists.mp
    (formatIfSet_isSome_iff.mpr (hformat craneOrder.latestStartTime (by decide) (by decide)))
  obtain ⟨deadlineAt, hdeadline⟩ := Option.isSome_iff_exists.mp
    (formatIfSet_isSome_iff.mpr (hformat craneOrder.deadline (by decide) (by decide)))
  obtain ⟨task, htask⟩ : ∃ task, mapWorkflowTask utcBrowser craneOrder { mode := .absoluteMs } =
      some task := by
    simp [mapWorkflowTask, toDisplayTimestamp, hrequested, hlatest, hdeadline]
  obtain ⟨history, hhistory⟩ := Option.isSome_iff_exists.mp
    ((prints_displayHistory utcBrowser { mode := .absoluteMs } (craneDetail windows)).mpr
      (craneDetail_prints windows))
  refine ⟨task, history, mapWorkflowTask_eq_some_iff.mp htask, ?_⟩
  have hcontext : deriveScheduleContext 0 (craneDetail windows).summary
      (craneDetail windows).config.tasks
      (rawAssignments (craneDetail windows)) = { mode := .absoluteMs } := craneOrder_absolute
  have hmapped : (craneDetail windows).config.tasks.mapM
      (fun task => mapWorkflowTask utcBrowser task { mode := .absoluteMs }) = some [task] := by
    simp [craneDetail, htask]
  simp only [displayWorkflow, hcontext, hhistory, hmapped, Option.bind_eq_bind, Option.bind_some,
    Option.pure_def, List.mergeSort_singleton]

end Cases

end TaskOrchestrator.Console
