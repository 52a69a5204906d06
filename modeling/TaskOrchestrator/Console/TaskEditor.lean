import TaskOrchestrator.Application.Config
import TaskOrchestrator.Console.Tasks
import TaskOrchestrator.Library.Text

/-!
# The task editor of the console

A task that is opened in the editor goes through the times of the console, the fields of the form
and back. What it is like afterwards for the planner, field by field.
-/

namespace TaskOrchestrator.Console

open Protocol Library

set_option autoImplicit false

/-- The white space and the line ends that `trim` takes off. -/
def isSpace (c : Char) : Bool :=
  c ∈ ['\t', '\n', '\x0b', '\x0c', '\r', ' ', '\xa0', '\u1680', '\u2028', '\u2029', '\u202f',
    '\u205f', '\u3000', '\ufeff'] || ('\u2000' ≤ c && c ≤ '\u200a')

/-- `text.trim()`. -/
def trimSpace (text : String) : String := String.ofList (Text.trim isSpace text.toList)

structure TaskEditorDraft where
  id : TaskId
  requestedAt : DatetimeLocal
  deadlineAt : DatetimeLocal
  durationMinutes : Number
  priority : Number
  preferredActorId : ActorId
  mandatory : Bool
  preemptible : Bool
  note : String

def makeDraftFromTask (browser : Browser) (task : WorkflowTask) : Option TaskEditorDraft := do
  let requestedAt ← toDatetimeLocalValue browser task.requestedTimeMs
  let deadlineAt ← toDatetimeLocalValue browser task.deadlineMs
  return {
    id := task.id
    requestedAt
    deadlineAt
    durationMinutes := task.durationMinutes
    priority := task.priority
    preferredActorId := task.preferredActorIds.head?.getD ""
    mandatory := task.mandatory
    preemptible := task.preemptible
    note := "" }

def mergeTaskDraft (browser : Browser) (existingTask : Option WorkflowTask)
    (draft : TaskEditorDraft) (requiredCapabilities : List String) (dependencyTaskIds : List TaskId)
    (defaultScheduleMode : Option WorkflowScheduleMode) (defaultScheduleAnchorMs : Option Number) :
    Option WorkflowTask := do
  let requestedTimeMs := fromDatetimeLocalValue browser draft.requestedAt
  let deadlineMs := fromDatetimeLocalValue browser draft.deadlineAt
  let latestStartTimeMs := (existingTask.map WorkflowTask.latestStartTimeMs).getD .zero
  let requestedAt ← formatDateTime browser requestedTimeMs
  let latestStartAt ← formatIfSet browser latestStartTimeMs
  let deadlineAt ← formatIfSet browser deadlineMs
  return {
    id := trimSpace draft.id
    requestedTimeMs
    requestedAt
    durationMs := minutesToMilliseconds draft.durationMinutes
    durationMinutes := draft.durationMinutes
    latestStartTimeMs
    latestStartAt
    deadlineMs
    deadlineAt
    scheduleMode := (existingTask.bind WorkflowTask.scheduleMode).or defaultScheduleMode
    scheduleAnchorMs := (existingTask.bind WorkflowTask.scheduleAnchorMs).or defaultScheduleAnchorMs
    priority := draft.priority
    demand := existingTask.bind WorkflowTask.demand
    mandatory := draft.mandatory
    preemptible := draft.preemptible
    allowedActorTypes := (existingTask.map WorkflowTask.allowedActorTypes).getD []
    allowedActorIds := (existingTask.map WorkflowTask.allowedActorIds).getD []
    preferredActorIds := if draft.preferredActorId ≠ "" then [draft.preferredActorId] else []
    requiredCapabilities
    dependencyTaskIds
    mutuallyExclusiveTaskIds := (existingTask.map WorkflowTask.mutuallyExclusiveTaskIds).getD []
    actorDistances := (existingTask.map WorkflowTask.actorDistances).getD []
    tardinessCostPerUnit := (existingTask.map WorkflowTask.tardinessCostPerUnit).getD 0
    earlyStartBonus := (existingTask.map WorkflowTask.earlyStartBonus).getD 0
    phaseDurations := (existingTask.map WorkflowTask.phaseDurations).getD [] }

/-- A stored task is opened in the editor, its priority is retyped, and it is saved. The result is
the message that the server reads, if no step throws and the server accepts the body. -/
def saveTask (browser : Browser) (context : WorkflowScheduleContext) (retype : Number → Number)
    (value : TaskConfig) :
    Option TaskConfig := do
  let task ← mapWorkflowTask browser value context
  let draft ← makeDraftFromTask browser task
  let merged ← mergeTaskDraft browser (some task) { draft with priority := retype draft.priority }
    task.requiredCapabilities task.dependencyTaskIds (some context.mode) context.anchorMs
  readTask (toTaskPayload merged)

/-- What the server reads for a 64-bit number that the console only carries along. -/
def reprinted (value : ℤ) : Option ℤ := readInt64 (numberText (parseNumber value))

section Saved

variable (browser : Browser) (context : WorkflowScheduleContext)

/-- What the server reads for a time with a field in the form. -/
def savedTime (zeroMeansUnset : Bool) (time : ℤ) : Option ℤ := do
  let shown := toDisplayTimestamp (parseNumber time) context zeroMeansUnset
  let _ ← formatDateTime browser shown
  let edited ← throughField browser shown
  let _ ← formatDateTime browser edited
  readInt64 (numberText (fromDisplayTimestamp edited context zeroMeansUnset))

def carriedTime (time : ℤ) : Option ℤ := do
  let shown := toDisplayTimestamp (parseNumber time) context true
  let _ ← formatDateTime browser shown
  readInt64 (numberText (fromDisplayTimestamp shown context true))

def savedDuration (duration : ℤ) : Option ℤ :=
  let minutes := toDurationMinutes (toDisplayDurationMs (parseNumber duration) context)
  readInt64 (numberText (fromDisplayDurationMs (minutesToMilliseconds minutes) context))

def savedPreferences (preferredActorIds : List ActorId) : List ActorId :=
  if preferredActorIds.head?.getD "" ≠ "" then [preferredActorIds.head?.getD ""] else []

def savedDistance (distance : ActorDistance) : Option ActorDistance :=
  readDistance (distance.actorId, numberText (parseNumber distance.distance))

/-- A message as it comes back from the editor. -/
structure SavedAs (retype : Number → Number) (value saved : TaskConfig) : Prop where
  id : saved.id = trimSpace value.id
  requestedTime : savedTime browser context false value.requestedTime = some saved.requestedTime
  duration : savedDuration context value.duration = some saved.duration
  latestStartTime : carriedTime browser context value.latestStartTime = some saved.latestStartTime
  deadline : savedTime browser context true value.deadline = some saved.deadline
  priority : readInt64 (numberText (retype (parseNumber value.priority))) = some saved.priority
  demand : readOptionalInt32 ((value.demand.map parseNumber).map numberText) = some saved.demand
  mandatory : saved.mandatory = some (value.mandatory == some true)
  preemptible : saved.preemptible = some (value.preemptible == some true)
  allowedActorTypes : saved.allowedActorTypes = value.allowedActorTypes
  allowedActorIds : saved.allowedActorIds = value.allowedActorIds
  preferredActorIds : saved.preferredActorIds = savedPreferences value.preferredActorIds
  requiredCapabilities : saved.requiredCapabilities = value.requiredCapabilities
  dependencyTaskIds : saved.dependencyTaskIds = value.dependencyTaskIds
  mutuallyExclusiveTaskIds : saved.mutuallyExclusiveTaskIds = value.mutuallyExclusiveTaskIds
  actorDistances : value.actorDistances.mapM savedDistance = some saved.actorDistances
  tardinessCostPerUnit : saved.tardinessCostPerUnit = value.tardinessCostPerUnit
  earlyStartBonus : saved.earlyStartBonus = value.earlyStartBonus
  phaseDurations : value.phaseDurations.mapM reprinted = some saved.phaseDurations

end Saved

section Saving

variable {browser : Browser} {context : WorkflowScheduleContext} {retype : Number → Number}
variable {value saved : TaskConfig}

theorem savedTime_eq_some_iff {zeroMeansUnset : Bool} {time sent : ℤ} :
    savedTime browser context zeroMeansUnset time = some sent ↔
      (formatDateTime browser
        (toDisplayTimestamp (parseNumber time) context zeroMeansUnset)).isSome ∧
        ∃ field, toDatetimeLocalValue browser
          (toDisplayTimestamp (parseNumber time) context zeroMeansUnset) = some field ∧
          (formatDateTime browser (fromDatetimeLocalValue browser field)).isSome ∧
          readInt64
          (numberText
            (fromDisplayTimestamp (fromDatetimeLocalValue browser field) context zeroMeansUnset)) =
            some sent := by
  simp [savedTime, throughField, Option.bind_eq_some_iff, Option.isSome_iff_exists]

theorem carriedTime_eq_some_iff {time sent : ℤ} :
    carriedTime browser context time = some sent ↔
      (formatDateTime browser (toDisplayTimestamp (parseNumber time) context true)).isSome ∧
        readInt64
            (numberText
              (fromDisplayTimestamp (toDisplayTimestamp (parseNumber time) context true) context
                true)) =
          some sent := by
  simp [carriedTime, Option.bind_eq_some_iff, Option.isSome_iff_exists]

theorem mapM_reprinted (values : List ℤ) :
    ((values.map parseNumber).map numberText).mapM readInt64 = values.mapM reprinted := by
  rw [List.map_map, List.mapM_map]
  rfl

theorem mapM_savedDistance (distances : List ActorDistance) :
    ((distances.map mapActorDistance).map fun distance =>
      (distance.actorId, numberText distance.distance)).mapM
      readDistance = distances.mapM savedDistance := by
  rw [List.map_map, List.mapM_map]
  rfl

theorem scheduleContext_of_merged {task : WorkflowTask}
    (hmode : task.scheduleMode = some context.mode)
    (hanchor : task.scheduleAnchorMs = context.anchorMs.or context.anchorMs) :
    task.scheduleContext = context := by
  rw [WorkflowTask.scheduleContext, hmode, hanchor, Option.or_self]
  rfl

theorem savedAs_of_saveTask (h : saveTask browser context retype value = some saved) :
    SavedAs browser context retype value saved := by
  simp only [saveTask, makeDraftFromTask, mergeTaskDraft, Option.bind_eq_bind,
    Option.bind_eq_some_iff, mapWorkflowTask_eq_some_iff, readTask_eq_some_iff, Option.pure_def,
    Option.some.injEq] at h
  obtain ⟨task, hshown, draft, ⟨requestedField, hrequestedField, deadlineField, hdeadlineField,
      rfl⟩, merged,
    ⟨requestedAt, hrequestedAt, latestStartAt, hlatestStartAt, deadlineAt, hdeadlineAt, rfl⟩,
      hread⟩ := h
  obtain ⟨⟩ := task
  obtain ⟨rfl, rfl, hshownRequested, rfl, rfl, rfl, hshownLatest, rfl, hshownDeadline, rfl, rfl,
      rfl, rfl, rfl, rfl, rfl,
    rfl, rfl, rfl, rfl, rfl, rfl, rfl, rfl, rfl⟩ := hshown
  simp only [toTaskPayload] at hread
  rw [scheduleContext_of_merged rfl rfl] at hread
  exact {
    id := hread.id
    requestedTime :=
      savedTime_eq_some_iff.mpr ⟨by rw [hshownRequested]; rfl, requestedField,
        hrequestedField, by rw [hrequestedAt]; rfl, hread.requestedTime⟩
    duration := hread.duration
    latestStartTime :=
      carriedTime_eq_some_iff.mpr ⟨formatIfSet_isSome_iff.mp (by rw [hshownLatest]; rfl),
        hread.latestStartTime⟩
    deadline :=
      savedTime_eq_some_iff.mpr ⟨formatIfSet_isSome_iff.mp (by rw [hshownDeadline]; rfl),
        deadlineField, hdeadlineField, formatIfSet_isSome_iff.mp (by rw [hdeadlineAt]; rfl),
        hread.deadline⟩
    priority := hread.priority
    demand := hread.demand
    mandatory := hread.mandatory
    preemptible := hread.preemptible
    allowedActorTypes := hread.allowedActorTypes
    allowedActorIds := hread.allowedActorIds
    preferredActorIds := hread.preferredActorIds
    requiredCapabilities := hread.requiredCapabilities
    dependencyTaskIds := hread.dependencyTaskIds
    mutuallyExclusiveTaskIds := hread.mutuallyExclusiveTaskIds
    actorDistances := (mapM_savedDistance _).symm.trans hread.actorDistances
    tardinessCostPerUnit := hread.tardinessCostPerUnit
    earlyStartBonus := hread.earlyStartBonus
    phaseDurations := (mapM_reprinted _).symm.trans hread.phaseDurations }

theorem saveTask_of_savedAs (h : SavedAs browser context retype value saved) :
    saveTask browser context retype value = some saved := by
  simp only [saveTask, makeDraftFromTask, mergeTaskDraft, Option.bind_eq_bind,
    Option.bind_eq_some_iff, mapWorkflowTask_eq_some_iff, readTask_eq_some_iff, Option.pure_def,
    Option.some.injEq]
  obtain ⟨hshownRequested, requestedField, hrequestedField, hrequestedAt, hrequested⟩ :=
    savedTime_eq_some_iff.mp h.requestedTime
  obtain ⟨hshownDeadline, deadlineField, hdeadlineField, hdeadlineAt, hdeadline⟩ :=
    savedTime_eq_some_iff.mp h.deadline
  obtain ⟨hshownLatest, hlatest⟩ := carriedTime_eq_some_iff.mp h.latestStartTime
  rw [Option.isSome_iff_exists] at hshownRequested hrequestedAt
  rw [← formatIfSet_isSome_iff, Option.isSome_iff_exists] at hshownDeadline hdeadlineAt hshownLatest
  obtain ⟨shownRequested, hshownRequested⟩ := hshownRequested
  obtain ⟨requestedAt, hrequestedAt⟩ := hrequestedAt
  obtain ⟨shownDeadline, hshownDeadline⟩ := hshownDeadline
  obtain ⟨deadlineAt, hdeadlineAt⟩ := hdeadlineAt
  obtain ⟨shownLatest, hshownLatest⟩ := hshownLatest
  obtain ⟨task, htask⟩ : ∃ task, mapWorkflowTask browser value context = some task := by
    simp [mapWorkflowTask, hshownRequested, hshownLatest, hshownDeadline]
  rw [mapWorkflowTask_eq_some_iff] at htask
  refine ⟨task, htask, _, ⟨requestedField, by rw [htask.requestedTimeMs, hrequestedField],
    deadlineField, by rw [htask.deadlineMs, hdeadlineField], rfl⟩, _,
    ⟨requestedAt, hrequestedAt, shownLatest, ?_, deadlineAt,
      hdeadlineAt, rfl⟩, ?_⟩
  · rw [Option.map_some, Option.getD_some, htask.latestStartTimeMs, hshownLatest]
  · obtain ⟨⟩ := task
    obtain ⟨rfl, rfl, -, rfl, rfl, rfl, -, rfl, -, rfl, rfl, rfl, rfl, rfl, rfl, rfl, rfl, rfl, rfl,
        rfl, rfl, rfl, rfl,
      rfl, rfl⟩ := htask
    simp only [toTaskPayload]
    rw [scheduleContext_of_merged rfl rfl]
    exact {
      id := h.id
      requestedTime := hrequested
      duration := h.duration
      latestStartTime := hlatest
      deadline := hdeadline
      priority := h.priority
      demand := h.demand
      mandatory := h.mandatory
      preemptible := h.preemptible
      allowedActorTypes := h.allowedActorTypes
      allowedActorIds := h.allowedActorIds
      preferredActorIds := h.preferredActorIds
      requiredCapabilities := h.requiredCapabilities
      dependencyTaskIds := h.dependencyTaskIds
      mutuallyExclusiveTaskIds := h.mutuallyExclusiveTaskIds
      actorDistances := (mapM_savedDistance _).trans h.actorDistances
      tardinessCostPerUnit := h.tardinessCostPerUnit
      earlyStartBonus := h.earlyStartBonus
      phaseDurations := (mapM_reprinted _).trans h.phaseDurations }

theorem saveTask_eq_some_iff :
    saveTask browser context retype value = some saved ↔
      SavedAs browser context retype value saved :=
  ⟨savedAs_of_saveTask, saveTask_of_savedAs⟩

end Saving

/-- A time whose minute the form keeps: a whole minute before the year 10000 of the browser's zone.
Minutes from an anchor are always whole. -/
def TimeKept (browser : Browser) (context : WorkflowScheduleContext) (time : ℤ) : Prop :=
  match context.mode with
  | .absoluteMs => time = 0 ∨ 60000 ∣ time ∧ time < yearLimit browser
  | .relativeMinutes => ∀ anchor, context.anchorMs = some (.finite anchor) →
    anchor + time * 60000 < yearLimit browser

def TimeShown (context : WorkflowScheduleContext) (time : ℤ) : Prop :=
  match context.mode with
  | .absoluteMs => time ≤ lastDate
  | .relativeMinutes => ∀ anchor, context.anchorMs = some (.finite anchor) →
    anchor + time * 60000 ≤ lastDate

section Times

variable {browser : Browser} {context : WorkflowScheduleContext} {zeroMeansUnset : Bool} {time : ℤ}

theorem fromDisplayTimestamp_nan : fromDisplayTimestamp .nan context zeroMeansUnset = .nan := by
  obtain ⟨mode, anchorMs⟩ := context
  cases mode <;> cases zeroMeansUnset <;> rfl

/-- A time that the form does not keep as a date is not accepted. -/
theorem savedTime_of_late {q : ℚ}
    (hshown : toDisplayTimestamp (parseNumber time) context zeroMeansUnset = .finite q)
    (hlate : yearLimit browser ≤ q) : savedTime browser context zeroMeansUnset time = none := by
  rw [Option.eq_none_iff_forall_ne_some]
  intro sent hsent
  obtain ⟨-, field, hfield, -, hread⟩ := savedTime_eq_some_iff.mp hsent
  rw [hshown] at hfield
  have hthrough : throughField browser (.finite q) =
      some (fromDatetimeLocalValue browser field) := by
    rw [throughField, hfield, Option.map_some]
  rcases throughField_of_le hlate with hnone | hnan
  · rw [hnone] at hthrough
    cases hthrough
  · rw [hnan] at hthrough
    rw [← Option.some.inj hthrough, fromDisplayTimestamp_nan, readInt64_nan] at hread
    cases hread

theorem savedTime_of_date {x : ℤ}
    (hshown : toDisplayTimestamp (parseNumber time) context zeroMeansUnset = .finite x)
    (hpos : 0 < x) (hyear : x < yearLimit browser) :
    savedTime browser context zeroMeansUnset time =
      readInt64
      (numberText
        (fromDisplayTimestamp (.finite (x / 60000 * 60000 : ℤ)) context zeroMeansUnset)) := by
  have hlast : x ≤ 8640000000000000 := (hyear.trans (yearLimit_bounds browser).2).le
  have hformat : ∀ y : ℤ, y ≤ x → ∃ text, formatDateTime browser (.finite y) = some text := by
    intro y hy
    rw [← Option.isSome_iff_exists, formatDateTime_isSome_iff, lastDate]
    exact_mod_cast hy.trans hlast
  obtain ⟨shownText, hshownText⟩ := hformat x le_rfl
  obtain ⟨editedText, heditedText⟩ := hformat (x / 60000 * 60000) (Int.ediv_mul_le x (by decide))
  simp only [savedTime, hshown, hshownText, throughField_of_lt hpos hyear, heditedText,
    Option.bind_eq_bind, Option.bind_some]

theorem savedTime_of_zero
    (hshown : toDisplayTimestamp (parseNumber time) context zeroMeansUnset = .zero) :
    savedTime browser context zeroMeansUnset time =
      readInt64 (numberText (fromDisplayTimestamp .zero context zeroMeansUnset)) := by
  have hzero : formatDateTime browser .zero = some "not scheduled" := rfl
  simp only [savedTime, hshown, hzero, throughField_zero, Option.bind_eq_bind, Option.bind_some]

theorem readInt64_zero : readInt64 (numberText .zero) = some 0 := by
  have hread := readInt64_of_lt (n := 0) (by norm_num)
  exact_mod_cast hread

theorem parseNumber_of_lt (hlow : 0 ≤ time) (hhigh : time < 2 ^ 53) :
    parseNumber time = .finite time := by
  rw [parseNumber, double_intCast (by rw [abs_of_nonneg hlow]; omega)]

theorem savedTime_absolute_iff (hlow : 0 ≤ time) (hhigh : time < 2 ^ 53) :
    savedTime browser { mode := .absoluteMs } zeroMeansUnset time = some time ↔
      time = 0 ∨ 60000 ∣ time ∧ time < yearLimit browser := by
  have hshown : toDisplayTimestamp (parseNumber time) { mode := .absoluteMs } zeroMeansUnset =
      .finite time :=
    parseNumber_of_lt hlow hhigh
  rcases hlow.eq_or_lt with rfl | hpos
  · rw [savedTime_of_zero (by rw [hshown, Number.zero, Int.cast_zero])]
    exact iff_of_true readInt64_zero (Or.inl rfl)
  · by_cases hyear : time < yearLimit browser
    · have hread : readInt64 (numberText (.finite (time / 60000 * 60000 : ℤ))) =
          some (time / 60000 * 60000) :=
        readInt64_of_lt (by rw [abs_of_nonneg (by positivity)]; omega)
      rw [savedTime_of_date hshown hpos hyear]
      change readInt64 (numberText (.finite (time / 60000 * 60000 : ℤ))) = some time ↔ _
      rw [hread, Option.some.injEq]
      omega
    · rw [savedTime_of_late hshown (by exact_mod_cast not_lt.mp hyear)]
      refine iff_of_false (Option.some_ne_none time).symm ?_
      rintro (rfl | ⟨-, hlt⟩)
      · exact lt_irrefl _ hpos
      · exact hyear hlt

theorem savedTime_minutesFrom_iff {k : ℕ} (hlow : 0 ≤ time)
    (hset : zeroMeansUnset = true → 0 < time) :
    savedTime browser (minutesFrom k) zeroMeansUnset time = some time ↔
      double (k * 60000) + time * 60000 < yearLimit browser := by
  have hlimit := (yearLimit_bounds browser).2
  by_cases hsmall : double (k * 60000) + time * 60000 < 2 ^ 53
  · obtain ⟨hvalue, hlt, hshown, hback⟩ := minutes_return hlow hset hsmall
    rw [hvalue]
    have hread : readInt64 (numberText (.finite time)) = some time := readInt64_of_lt (by
      rw [abs_of_nonneg hlow]
      omega)
    have hnonneg : 0 ≤ (k + time) * 60000 := by positivity
    rw [show (((k + time) * 60000 : ℤ) : ℚ) < yearLimit browser ↔
      (k + time) * 60000 < yearLimit browser by norm_cast]
    rcases hnonneg.eq_or_lt with hzero | hpos
    · rw [← hzero] at hshown hback ⊢
      rw [Int.cast_zero] at hshown hback
      rw [savedTime_of_zero hshown]
      exact iff_of_true ((congrArg (fun x => readInt64 (numberText x)) hback).trans hread)
        (yearLimit_bounds browser).1
    · by_cases hyear : (k + time) * 60000 < yearLimit browser
      · rw [savedTime_of_date hshown hpos hyear, Int.mul_ediv_cancel _ (by decide), hback]
        exact iff_of_true hread hyear
      · rw [savedTime_of_late hshown (by exact_mod_cast not_lt.mp hyear)]
        exact iff_of_false (fun h => nomatch h) hyear
  · have hshown := toDisplayTimestamp_minutesFrom (k := k) hset
    have hlarge := shown_of_le hlow (not_lt.mp hsmall)
    have hyear : ((yearLimit browser : ℤ) : ℚ) ≤ 2 ^ 53 := by
      exact_mod_cast (hlimit.trans (by norm_num : (8640000000000000 : ℤ) < 2 ^ 53)).le
    rw [savedTime_of_late hshown (hyear.trans hlarge)]
    refine iff_of_false (fun h => nomatch h) (not_lt.mpr (hyear.trans (not_lt.mp hsmall)))

theorem savedTime_unset
    (hcontext : context = { mode := .absoluteMs } ∨ ∃ k, context = minutesFrom k) :
    savedTime browser context true 0 = some 0 := by
  rcases hcontext with rfl | ⟨k, rfl⟩
  · exact (savedTime_absolute_iff le_rfl (by norm_num)).mpr (Or.inl rfl)
  · rw [savedTime_of_zero toDisplayTimestamp_unset]
    exact readInt64_zero

theorem timeKept_minutesFrom {k : ℕ} :
    TimeKept browser (minutesFrom k) time ↔ double (k * 60000) + time * 60000 < yearLimit browser :=
  ⟨fun h => h _ rfl, fun h _ hanchor => Number.finite.inj (Option.some.inj hanchor) ▸ h⟩

theorem savedTime_requested_iff
    (hcontext : context = { mode := .absoluteMs } ∨ ∃ k, context = minutesFrom k) (hlow : 0 ≤ time)
    (hhigh : time < 2 ^ 53) :
    savedTime browser context false time = some time ↔ TimeKept browser context time := by
  rcases hcontext with rfl | ⟨k, rfl⟩
  · exact savedTime_absolute_iff hlow hhigh
  · rw [savedTime_minutesFrom_iff hlow fun h => absurd h Bool.false_ne_true, timeKept_minutesFrom]

theorem savedTime_deadline_iff
    (hcontext : context = { mode := .absoluteMs } ∨ ∃ k, context = minutesFrom k) (hlow : 0 ≤ time)
    (hhigh : time < 2 ^ 53) :
    savedTime browser context true time = some time ↔ time = 0 ∨ TimeKept browser context time := by
  rcases hlow.eq_or_lt with rfl | hpos
  · exact iff_of_true (savedTime_unset hcontext) (Or.inl rfl)
  · rw [or_iff_right hpos.ne']
    rcases hcontext with rfl | ⟨k, rfl⟩
    · exact savedTime_absolute_iff hlow hhigh
    · rw [savedTime_minutesFrom_iff hlow (fun _ => hpos), timeKept_minutesFrom]

theorem carriedTime_iff
    (hcontext : context = { mode := .absoluteMs } ∨ ∃ k, context = minutesFrom k) (hlow : 0 ≤ time)
    (hhigh : time < 2 ^ 53) :
    carriedTime browser context time = some time ↔ time = 0 ∨ TimeShown context time := by
  have hlast : lastDate < 2 ^ 53 := by norm_num [lastDate]
  have hread : readInt64 (numberText (.finite time)) = some time :=
    readInt64_of_lt (by rwa [abs_of_nonneg hlow])
  rcases hcontext with rfl | ⟨k, rfl⟩
  · have hshown : toDisplayTimestamp (parseNumber time) { mode := .absoluteMs } true =
        .finite time :=
      parseNumber_of_lt hlow hhigh
    rw [carriedTime_eq_some_iff, hshown, formatDateTime_isSome_iff]
    constructor
    · exact fun h => Or.inr h.1
    · rintro (rfl | h)
      · exact ⟨by norm_num [lastDate], hread⟩
      · exact ⟨h, hread⟩
  · rcases hlow.eq_or_lt with rfl | hpos
    · refine iff_of_true (carriedTime_eq_some_iff.mpr ?_) (Or.inl rfl)
      rw [toDisplayTimestamp_unset]
      exact ⟨rfl, readInt64_zero⟩
    · have hkept : TimeShown (minutesFrom k) time ↔ double (k * 60000) + time * 60000 ≤ lastDate :=
        ⟨fun h => h _ rfl, fun h _ hanchor => Number.finite.inj (Option.some.inj hanchor) ▸ h⟩
      rw [carriedTime_eq_some_iff, or_iff_right hpos.ne', hkept]
      by_cases hsmall : double (k * 60000) + time * 60000 < 2 ^ 53
      · obtain ⟨hvalue, -, hshown, hback⟩ := @minutes_return k time true hlow (fun _ => hpos) hsmall
        rw [hvalue, hshown, formatDateTime_isSome_iff, hback]
        exact and_iff_left hread
      · rw [toDisplayTimestamp_minutesFrom fun _ => hpos, formatDateTime_isSome_iff]
        have hlarge := shown_of_le hlow (not_lt.mp hsmall)
        refine iff_of_false (fun h => ?_) fun h => ?_
        · exact absurd (h.1.trans_lt hlast) (not_lt.mpr hlarge)
        · exact hsmall (h.trans_lt hlast)

end Times

/-- A duration that the form keeps: whole minutes of milliseconds, or minutes below 2^51, or ones
that are the same after both roundings. -/
def DurationKept (context : WorkflowScheduleContext) (duration : ℤ) : Prop :=
  match context.mode with
  | .absoluteMs => 60000 ∣ duration
  | .relativeMinutes => duration < 2 ^ 51 ∨ throughMinutes (throughMinutes duration) = duration

section Durations

variable {context : WorkflowScheduleContext} {duration : ℤ}

theorem minutesToMilliseconds_intCast {minutes : ℤ} (h : 0 ≤ minutes) :
    minutesToMilliseconds (.finite minutes) = .finite (double (minutes * 60000)) := by
  obtain ⟨m, hm⟩ := exists_double_intCast (minutes * 60000)
  push_cast at hm
  have hnonneg := double_nonneg (q := minutes * 60000) (by positivity)
  rw [minutesToMilliseconds, minuteInMs, Number.finite_mul, max_zero_round_of_nonneg hnonneg, hm,
    Int.floor_intCast_add, show ⌊(1 / 2 : ℚ)⌋ = 0 by norm_num, add_zero]

theorem toDurationMinutes_of_nonneg {q : ℚ} (h : 0 ≤ q) :
    toDurationMinutes (.finite q) = .finite (⌊double (q / 60000) + 1 / 2⌋ : ℤ) := by
  rw [toDurationMinutes, minuteInMs, Number.finite_div,
    max_zero_round_of_nonneg (double_nonneg (by positivity))]

theorem savedDuration_absolute_iff (hlow : 0 ≤ duration) (hhigh : duration < 2 ^ 53) :
    savedDuration { mode := .absoluteMs } duration = some duration ↔ 60000 ∣ duration := by
  have hd : (0 : ℚ) ≤ duration := by exact_mod_cast hlow
  have hshown : toDisplayDurationMs (parseNumber duration) { mode := .absoluteMs } =
      .finite duration :=
    parseNumber_of_lt hlow hhigh
  obtain ⟨minutes, hminutes⟩ : ∃ minutes : ℤ, ⌊double (duration / 60000) + 1 / 2⌋ = minutes :=
    ⟨_, rfl⟩
  have hnonneg : 0 ≤ minutes := by
    rw [← hminutes]
    have hback := double_nonneg (q := duration / 60000) (by positivity)
    exact Int.floor_nonneg.mpr (by linarith)
  obtain ⟨sent, hsent⟩ := exists_double_intCast (minutes * 60000)
  have hsentNonneg : 0 ≤ sent := by
    have hdouble :=
      double_nonneg (q := (minutes * 60000 : ℤ))
        (by exact_mod_cast mul_nonneg hnonneg (by norm_num))
    rw [hsent] at hdouble
    exact_mod_cast hdouble
  have hsaved : savedDuration { mode := .absoluteMs } duration =
      readInt64 (numberText (.finite sent)) := by
    rw [savedDuration, hshown, toDurationMinutes_of_nonneg hd, hminutes,
      minutesToMilliseconds_intCast hnonneg]
    push_cast at hsent
    rw [hsent]
    rfl
  -- Whole minutes are counted exactly.
  have hcount : ∀ j : ℤ, duration = 60000 * j → minutes = j := by
    rintro j rfl
    have hj : double (((60000 * j : ℤ) : ℚ) / 60000) = j := by
      rw [← double_intCast (n := j) (by rw [abs_of_nonneg (by omega)]; omega)]
      congr 1
      push_cast
      field_simp
    rw [← hminutes, hj, Int.floor_intCast_add, show ⌊(1 / 2 : ℚ)⌋ = 0 by norm_num, add_zero]
  rw [hsaved, readInt64_eq_some_iff hsentNonneg hhigh]
  by_cases hlt : minutes * 60000 < 2 ^ 53
  · rw [double_intCast (by rw [abs_of_nonneg (by positivity)]; omega)] at hsent
    have heq : sent = minutes * 60000 := by exact_mod_cast hsent.symm
    constructor
    · rintro rfl
      exact ⟨minutes, by omega⟩
    · rintro ⟨j, hj⟩
      rw [heq, hcount j hj, hj, mul_comm]
  · have hlarge : (2 : ℚ) ^ 53 ≤ double (minutes * 60000 : ℤ) :=
      le_double (by exact_mod_cast not_lt.mp hlt)
    rw [hsent] at hlarge
    have hsentLarge : 2 ^ 53 ≤ sent := by exact_mod_cast hlarge
    refine iff_of_false (by omega) ?_
    rintro ⟨j, hj⟩
    have hminutesEq := hcount j hj
    omega

theorem savedDuration_minutesFrom_iff {k : ℕ} (hlow : 0 ≤ duration) (hhigh : duration < 2 ^ 53) :
    savedDuration (minutesFrom k) duration = some duration ↔
      throughMinutes (throughMinutes duration) = duration := by
  have hd : (0 : ℚ) ≤ duration := by exact_mod_cast hlow
  have hnonneg := throughMinutes_nonneg hlow
  have hcast : (0 : ℚ) ≤ throughMinutes duration := by exact_mod_cast hnonneg
  have hshown : toDisplayDurationMs (parseNumber duration) (minutesFrom k) =
      .finite (double (duration * 60000)) := by
    rw [parseNumber_of_lt hlow hhigh]
    rfl
  have hminutes : toDurationMinutes (.finite (double (duration * 60000))) =
      .finite (throughMinutes duration) :=
    toDurationMinutes_of_nonneg (double_nonneg (by positivity))
  have hback : fromDisplayDurationMs (.finite (double (throughMinutes duration * 60000)))
      (minutesFrom k) = .finite (throughMinutes (throughMinutes duration)) :=
    toDurationMinutes_of_nonneg (double_nonneg (by positivity))
  rw [savedDuration, hshown, hminutes, minutesToMilliseconds_intCast hnonneg, hback,
    readInt64_eq_some_iff (throughMinutes_nonneg hnonneg) hhigh]

theorem durationKept_minutesFrom_iff {k : ℕ} (hlow : 0 ≤ duration) :
    DurationKept (minutesFrom k) duration ↔ throughMinutes
    (throughMinutes duration) = duration := by
  refine or_iff_right_of_imp fun hhigh => ?_
  have hself := throughMinutes_eq_self hlow hhigh
  rw [hself, hself]

theorem savedDuration_iff
    (hcontext : context = { mode := .absoluteMs } ∨ ∃ k, context = minutesFrom k)
    (hlow : 0 ≤ duration) (hhigh : duration < 2 ^ 53) :
    savedDuration context duration = some duration ↔ DurationKept context duration := by
  rcases hcontext with rfl | ⟨k, rfl⟩
  · exact savedDuration_absolute_iff hlow hhigh
  · rw [savedDuration_minutesFrom_iff hlow hhigh, durationKept_minutesFrom_iff hlow]

end Durations

/-- The distances of a task by actor, the first of several for one actor. -/
def distancesByActor (distances : List ActorDistance) : List (ActorId × Time) :=
  distances.foldl (fun m d => App.emplace m d.actorId d.distance) []

/-- Every distance is accepted again, and those that count come back as they were, as all below 2^53
do. -/
def DistancesKept (distances : List ActorDistance) : Prop :=
  (∀ distance ∈ distances, (reprinted distance.distance).isSome) ∧
    ∀ entry ∈ distancesByActor distances, |entry.2| < 2 ^ 53 ∨ reprinted entry.2 = some entry.2

section Distances

variable {distances sent : List ActorDistance}

theorem emplace_map (f : Time → Time) (entries : List (ActorId × Time)) (actorId : ActorId)
    (distance : Time) :
    App.emplace (entries.map (Prod.map id f)) actorId (f distance) =
      (App.emplace entries actorId distance).map (Prod.map id f) := by
  have hkeys : (entries.map (Prod.map id f)).map Prod.fst = entries.map Prod.fst := by
    rw [List.map_map]
    rfl
  unfold App.emplace
  rw [hkeys]
  split_ifs
  · rfl
  · rw [List.map_append]
    rfl

theorem distancesByActor_map (f : Time → Time) (distances : List ActorDistance) :
    distancesByActor (distances.map fun d => { d with distance := f d.distance }) =
      (distancesByActor distances).map (Prod.map id f) := by
  have hfold : ∀ entries : List (ActorId × Time),
      (distances.map fun d => { d with distance := f d.distance }).foldl
          (fun m d => App.emplace m d.actorId d.distance) (entries.map (Prod.map id f)) =
        (distances.foldl (fun m d => App.emplace m d.actorId d.distance) entries).map
          (Prod.map id f) := by
    induction distances with
    | nil => exact fun entries => rfl
    | cons d rest ih =>
      intro entries
      rw [List.map_cons, List.foldl_cons, List.foldl_cons, emplace_map, ih]
  exact hfold []

/-- What the server reads for a number that it accepts. -/
def sentNumber (value : ℤ) : ℤ := (reprinted value).getD 0

theorem mapM_reprinted_eq_some_iff {values read : List ℤ} :
    values.mapM reprinted = some read ↔
      (∀ value ∈ values, (reprinted value).isSome) ∧ read = values.map sentNumber :=
  mapM_eq_some_map_iff fun value sent h => by rw [sentNumber, h, Option.getD_some]

theorem mapM_savedDistance_eq_some_iff :
    distances.mapM savedDistance = some sent ↔
      (∀ distance ∈ distances, (reprinted distance.distance).isSome) ∧
        sent = distances.map fun d => { d with distance := sentNumber d.distance } := by
  have hsaved : ∀ d : ActorDistance, savedDistance d =
      (reprinted d.distance).map fun sent => { d with distance := sent } := by
    intro d
    rw [savedDistance, readDistance, reprinted]
    cases readInt64 (numberText (parseNumber d.distance)) <;> rfl
  have hsent : ∀ d saved, savedDistance d = some saved →
      { d with distance := sentNumber d.distance } = saved := by
    intro d saved h
    rw [hsaved, Option.map_eq_some_iff] at h
    obtain ⟨sent, hsent, rfl⟩ := h
    rw [sentNumber, hsent, Option.getD_some]
  rw [mapM_eq_some_map_iff hsent]
  simp only [hsaved, Option.isSome_map]

theorem mem_distancesByActor {entry : ActorId × Time} (h : entry ∈ distancesByActor distances) :
    ∃ distance ∈ distances, distance.distance = entry.2 := by
  have hfold : ∀ entries : List (ActorId × Time),
      entry ∈ distances.foldl (fun m d => App.emplace m d.actorId d.distance) entries →
        entry ∈ entries ∨ ∃ distance ∈ distances, distance.distance = entry.2 := by
    clear h
    induction distances with
    | nil => exact fun entries h => Or.inl h
    | cons d rest ih =>
      intro entries h
      rcases ih _ h with hold | ⟨distance, hdistance, heq⟩
      · simp only [App.emplace] at hold
        split_ifs at hold
        · exact Or.inl hold
        · rcases List.mem_append.mp hold with hold | hnew
          · exact Or.inl hold
          · obtain rfl := List.mem_singleton.mp hnew
            exact Or.inr ⟨d, List.mem_cons_self, rfl⟩
      · exact Or.inr ⟨distance, List.mem_cons_of_mem d hdistance, heq⟩
  exact (hfold [] h).resolve_left List.not_mem_nil

theorem distancesByActor_sent_iff
    (hall : ∀ distance ∈ distances, (reprinted distance.distance).isSome) :
    distancesByActor (distances.map fun d => { d with distance := sentNumber d.distance }) =
      distancesByActor distances ↔
      ∀ entry ∈ distancesByActor distances, reprinted entry.2 = some entry.2 := by
  have hself : (distancesByActor distances).map (Prod.map id sentNumber) =
      distancesByActor distances ↔
      ∀ entry ∈ distancesByActor distances, Prod.map id sentNumber entry = entry := by
    simpa using List.map_inj_left (l := distancesByActor distances)
      (f := Prod.map id sentNumber) (g := id)
  rw [distancesByActor_map, hself]
  refine forall₂_congr fun entry hentry => ?_
  obtain ⟨distance, hdistance, heq⟩ := mem_distancesByActor hentry
  obtain ⟨sent, hsent⟩ := Option.isSome_iff_exists.mp (heq ▸ hall distance hdistance)
  rw [Prod.ext_iff]
  simp [sentNumber, hsent]

end Distances

theorem savedPreferences_eq_self_iff {preferredActorIds : List ActorId} :
    savedPreferences preferredActorIds = preferredActorIds ↔
      preferredActorIds = [] ∨ ∃ actorId, actorId ≠ "" ∧ preferredActorIds = [actorId] := by
  cases preferredActorIds with
  | nil => simp [savedPreferences]
  | cons actorId rest =>
    by_cases hempty : actorId = ""
    · simp [savedPreferences, hempty]
    · simp [savedPreferences, hempty, eq_comm]

/-- Saving a task untouched leaves it as it is for the planner, and saving it with another priority
changes its priority only. -/
def SaveChangesNothingElse (browser : Browser) (context : WorkflowScheduleContext)
    (value : TaskConfig) : Prop :=
  (∃ saved, saveTask browser context id value = some saved ∧ App.toAppTask saved =
    App.toAppTask value) ∧ ∀ priority sent, readInt64 (numberText priority) = some sent →
      ∃ saved, saveTask browser context (fun _ => priority) value = some saved ∧
        App.toAppTask saved = { App.toAppTask value with priority := App.toPriority sent }

/-- The times and the durations of a task are not negative and below 2^53, and its demand has 32
bits. -/
structure InRange (value : TaskConfig) : Prop where
  requestedTime : 0 ≤ value.requestedTime ∧ value.requestedTime < 2 ^ 53
  duration : 0 ≤ value.duration ∧ value.duration < 2 ^ 53
  latestStartTime : 0 ≤ value.latestStartTime ∧ value.latestStartTime < 2 ^ 53
  deadline : 0 ≤ value.deadline ∧ value.deadline < 2 ^ 53
  phaseDurations : ∀ duration ∈ value.phaseDurations, 0 ≤ duration ∧ duration < 2 ^ 53
  demand : ∀ demand ∈ value.demand, -2 ^ 31 ≤ demand ∧ demand ≤ 2 ^ 31 - 1

structure EditorKeeps (browser : Browser) (context : WorkflowScheduleContext)
    (value : TaskConfig) : Prop where
  id : trimSpace value.id = value.id
  requestedTime : TimeKept browser context value.requestedTime
  duration : DurationKept context value.duration
  latestStartTime : value.latestStartTime = 0 ∨ TimeShown context value.latestStartTime
  deadline : value.deadline = 0 ∨ TimeKept browser context value.deadline
  priority : |value.priority| < 2 ^ 53 ∨
    ∃ sent, reprinted value.priority = some sent ∧
      App.toPriority sent = App.toPriority value.priority
  mandatory : value.mandatory ≠ none
  preferredActorIds : value.preferredActorIds = [] ∨ ∃ actorId, actorId ≠ "" ∧
    value.preferredActorIds = [actorId]
  actorDistances : DistancesKept value.actorDistances

section Unchanged

variable {browser : Browser} {context : WorkflowScheduleContext} {retype : Number → Number}
variable {value saved : TaskConfig}

theorem readOptionalInt32_parseNumber {given : Option ℤ}
    (h : ∀ n ∈ given, -2 ^ 31 ≤ n ∧ n ≤ 2 ^ 31 - 1) :
    readOptionalInt32 ((given.map parseNumber).map numberText) = some given := by
  cases given with
  | none => rfl
  | some n =>
    obtain ⟨hlow, hhigh⟩ := h n rfl
    have hnumber : parseNumber n = .finite n := by
      rw [parseNumber, double_intCast (abs_le.mpr ⟨by omega, by omega⟩)]
    simp only [Option.map_some, readOptionalInt32, hnumber, readInt32_of_bounds hlow hhigh]

theorem reprinted_of_lt {n : ℤ} (h : |n| < 2 ^ 53) : reprinted n = some n := by
  rw [reprinted, parseNumber, double_intCast h.le, readInt64_of_lt h]

theorem mapM_reprinted_of_inRange (h : InRange value) :
    value.phaseDurations.mapM reprinted = some value.phaseDurations := by
  have hself : ∀ duration ∈ value.phaseDurations, reprinted duration = some duration := by
    intro duration hduration
    obtain ⟨hlow, hhigh⟩ := h.phaseDurations duration hduration
    exact reprinted_of_lt (by rwa [abs_of_nonneg hlow])
  simpa using mapM_eq_pure (m := Option) (g := fun duration => duration) hself

theorem getD_mandatory_iff :
    (value.mandatory == some true) = value.mandatory.getD true ↔ value.mandatory ≠ none := by
  rcases value.mandatory with _ | _ | _ <;> decide

theorem getD_preemptible : (value.preemptible == some true) = value.preemptible.getD false := by
  rcases value.preemptible with _ | _ | _ <;> decide

theorem editorKeeps_of_saved
    (hcontext : context = { mode := .absoluteMs } ∨ ∃ k, context = minutesFrom k)
    (hrange : InRange value) (h : SavedAs browser context id value saved)
    (hsame : App.toAppTask saved = App.toAppTask value) : EditorKeeps browser context value := by
  simp only [App.toAppTask, App.TaskConfig.mk.injEq] at hsame
  obtain ⟨hid, hrequested, hduration, hlatest, hdeadline, hpriority, -, hmandatory, -, -, -,
      hpreferred, -, -, -,
    hdistances, -⟩ := hsame
  obtain ⟨hall, hsent⟩ := mapM_savedDistance_eq_some_iff.mp h.actorDistances
  rw [hsent] at hdistances
  exact {
    id := by rw [← h.id, hid]
    requestedTime :=
      (savedTime_requested_iff hcontext hrange.requestedTime.1 hrange.requestedTime.2).mp
      (hrequested ▸ h.requestedTime)
    duration :=
      (savedDuration_iff hcontext hrange.duration.1 hrange.duration.2).mp (hduration ▸ h.duration)
    latestStartTime :=
      (carriedTime_iff hcontext hrange.latestStartTime.1 hrange.latestStartTime.2).mp
      (hlatest ▸ h.latestStartTime)
    deadline := (savedTime_deadline_iff hcontext hrange.deadline.1 hrange.deadline.2).mp
      (hdeadline ▸ h.deadline)
    priority := Or.inr ⟨saved.priority, h.priority, hpriority⟩
    mandatory := getD_mandatory_iff.mp (by rw [← hmandatory, h.mandatory, Option.getD_some])
    preferredActorIds := savedPreferences_eq_self_iff.mp (by rw [← h.preferredActorIds, hpreferred])
    actorDistances :=
      ⟨hall, fun entry hentry =>
        Or.inr ((distancesByActor_sent_iff hall).mp hdistances entry hentry)⟩ }

theorem saveTask_of_editorKeeps
    (hcontext : context = { mode := .absoluteMs } ∨ ∃ k, context = minutesFrom k)
    (hrange : InRange value) (h : EditorKeeps browser context value) {sent : ℤ}
    (hsent : readInt64 (numberText (retype (parseNumber value.priority))) = some sent) :
    ∃ saved, saveTask browser context retype value = some saved ∧
      App.toAppTask saved = { App.toAppTask value with priority := App.toPriority sent } := by
  refine ⟨{ value with
    id := trimSpace value.id
    priority := sent
    mandatory := some (value.mandatory == some true)
    preemptible := some (value.preemptible == some true)
    preferredActorIds := savedPreferences value.preferredActorIds
    actorDistances := value.actorDistances.map fun d =>
      { d with distance := sentNumber d.distance } },
    saveTask_eq_some_iff.mpr ?_, ?_⟩
  · exact {
      id := rfl
      requestedTime :=
        (savedTime_requested_iff hcontext hrange.requestedTime.1 hrange.requestedTime.2).mpr
          h.requestedTime
      duration := (savedDuration_iff hcontext hrange.duration.1 hrange.duration.2).mpr h.duration
      latestStartTime :=
        (carriedTime_iff hcontext hrange.latestStartTime.1 hrange.latestStartTime.2).mpr
          h.latestStartTime
      deadline :=
        (savedTime_deadline_iff hcontext hrange.deadline.1 hrange.deadline.2).mpr h.deadline
      priority := hsent
      demand := readOptionalInt32_parseNumber hrange.demand
      mandatory := rfl
      preemptible := rfl
      allowedActorTypes := rfl
      allowedActorIds := rfl
      preferredActorIds := rfl
      requiredCapabilities := rfl
      dependencyTaskIds := rfl
      mutuallyExclusiveTaskIds := rfl
      actorDistances := mapM_savedDistance_eq_some_iff.mpr ⟨h.actorDistances.1, rfl⟩
      tardinessCostPerUnit := rfl
      earlyStartBonus := rfl
      phaseDurations := mapM_reprinted_of_inRange hrange }
  · have hdistances := (distancesByActor_sent_iff h.actorDistances.1).mpr fun entry hentry =>
      (h.actorDistances.2 entry hentry).elim reprinted_of_lt fun hkept => hkept
    have hpreferences := savedPreferences_eq_self_iff.mpr h.preferredActorIds
    have hmandatory := getD_mandatory_iff.mpr h.mandatory
    unfold distancesByActor at hdistances
    simp only [App.toAppTask, Option.getD_some, h.id, hpreferences, hmandatory, getD_preemptible,
      hdistances]

end Unchanged

/-- Saving a task of a workflow changes nothing, or only the priority that was typed, exactly if the
editor keeps it. -/
theorem save_changes_nothing_iff (browser : Browser) (now : ℕ) (summary : WorkflowSummary)
    (tasks : List TaskConfig) (assignments : List Assignment) {value : TaskConfig}
    (hrange : InRange value) :
    SaveChangesNothingElse browser (deriveScheduleContext now summary tasks assignments) value ↔
      EditorKeeps browser (deriveScheduleContext now summary tasks assignments) value := by
  have hcontext := deriveScheduleContext_cases now summary tasks assignments
  constructor
  · rintro ⟨⟨saved, hsaved, hsame⟩, -⟩
    exact editorKeeps_of_saved hcontext hrange (saveTask_eq_some_iff.mp hsaved) hsame
  · intro h
    refine ⟨?_, fun priority sent hsent => saveTask_of_editorKeeps hcontext hrange h hsent⟩
    obtain ⟨sent, hsent, hpriority⟩ :=
      h.priority.elim (fun hlt => ⟨_, reprinted_of_lt hlt, rfl⟩) fun hkept => hkept
    obtain ⟨saved, hsaved, hsame⟩ := @saveTask_of_editorKeeps _ _ id _ hcontext hrange h _ hsent
    exact ⟨saved, hsaved, by rw [hsame, hpriority]; rfl⟩

section Cases

/-- An order with a deadline one hour after its start, in milliseconds. -/
def craneOrder : TaskConfig where
  id := "pick-201"
  requestedTime := 1700000040000
  duration := 600000
  deadline := 1700003640000
  priority := 5
  mandatory := some true
  preferredActorIds := ["crane"]
  actorDistances := [{ actorId := "crane", distance := 7 }]

theorem craneOrder_absolute :
    deriveScheduleContext 0 {} [craneOrder] [] = { mode := .absoluteMs } := by
  have habsolute : (timeCandidates [craneOrder] []).any looksLikeAbsoluteTimestamp = true := by
    rw [List.any_eq_true]
    refine ⟨parseNumber 1700000040000, List.mem_filter.mpr ⟨by simp [craneOrder], ?_⟩, ?_⟩ <;>
      rw [parseNumber_of_lt (by decide) (by norm_num)]
    · simp [Number.zero]
    · norm_num [looksLikeAbsoluteTimestamp, absoluteTimeFloorMs]
  simp [deriveScheduleContext, habsolute]

theorem craneOrder_unchanged :
    SaveChangesNothingElse utcBrowser (deriveScheduleContext 0 {} [craneOrder] []) craneOrder := by
  refine (save_changes_nothing_iff utcBrowser 0 {} [craneOrder] [] ⟨?_, ?_, ?_, ?_, ?_, ?_⟩).mpr ?_
  · decide
  · decide
  · decide
  · decide
  · exact fun _ h => absurd h List.not_mem_nil
  · exact fun _ h => nomatch h
  · rw [craneOrder_absolute]
    exact {
      id := by decide
      requestedTime := Or.inr (by decide)
      duration := show (60000 : ℤ) ∣ 600000 by decide
      latestStartTime := Or.inl rfl
      deadline := Or.inr (Or.inr (by decide))
      priority := Or.inl (by decide)
      mandatory := by decide
      preferredActorIds := Or.inr ⟨"crane", by decide, rfl⟩
      actorDistances := by
        constructor <;> intro d hd
        · obtain rfl := List.mem_singleton.mp hd
          rw [reprinted_of_lt (by decide)]
          rfl
        · obtain rfl : d = ("crane", 7) := List.mem_singleton.mp hd
          exact Or.inl (by decide) }

def plainOrder : TaskConfig where
  id := "pick-201"
  requestedTime := 5
  duration := 10

/-- Saving it makes it optional. -/
theorem plainOrder_made_optional :
    InRange plainOrder ∧
      ¬SaveChangesNothingElse utcBrowser
      (deriveScheduleContext 0 {} [plainOrder] []) plainOrder := by
  refine ⟨⟨by decide, by decide, by decide, by decide, fun _ h => absurd h List.not_mem_nil,
    fun _ h => nomatch h⟩, ?_⟩
  rintro ⟨⟨saved, hsaved, hsame⟩, -⟩
  have hmandatory := (saveTask_eq_some_iff.mp hsaved).mandatory
  have hplanner := congrArg App.TaskConfig.mandatory hsame
  simp only [App.toAppTask, hmandatory] at hplanner
  exact absurd hplanner (by decide)

end Cases

end TaskOrchestrator.Console
