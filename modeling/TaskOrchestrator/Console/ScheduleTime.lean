import TaskOrchestrator.Library.Numbers
import TaskOrchestrator.Application.Dashboard

/-!
# Times of the console

The console shows the times of a workflow as milliseconds. A workflow whose times are minutes from
its creation gets an anchor, the minute of its creation, and its times are shown behind the anchor.
-/

namespace TaskOrchestrator.Console

open Protocol Library

set_option autoImplicit false

def minuteInMs : Number := .finite 60000

def lastDate : ℚ := 8640000000000000

/-- The first millisecond of the year 10000, from which on a date is not printed with four digits. -/
def year10000 : ℤ := 253402300800000

/-- The browser: its zone, minutes behind UTC, and how it prints a date. -/
structure Browser where
  timezoneOffset : ℤ
  withinDay : |timezoneOffset| < 24 * 60
  dateText : ℤ → String
  clockText : ℤ → String

def utcBrowser : Browser where
  timezoneOffset := 0
  withinDay := by decide
  dateText := fun timestamp => toString timestamp
  clockText := fun timestamp => toString timestamp

/-- `parseNumber` of an `int64` of a message. -/
def parseNumber (value : ℤ) : Number := .finite (double value)

/-- `parseNumber` of a number. -/
def finiteOrZero : Number → Number
  | .nan => .zero
  | .finite q => .finite q

def formatTime (text : ℤ → String) (value : Number) : Option String :=
  match finiteOrZero value with
  | .nan => none
  | .finite timestamp =>
    if timestamp ≤ 0 then some "not scheduled"
    else if lastDate < timestamp then none
    else some (text ⌊timestamp⌋)

def formatDateTime (browser : Browser) (value : Number) : Option String :=
  formatTime browser.dateText value

def formatClockTime (browser : Browser) (value : Number) : Option String :=
  formatTime browser.clockText value

def withinDates (value : Number) : Bool := (finiteOrZero value).le (.finite lastDate)

/-- What a field for a local date and time holds. The text of a later year is cut in its middle and
is no date. -/
inductive DatetimeLocal where
  | empty
  | minute (minute : ℤ)
  | malformed
  deriving DecidableEq

def toDatetimeLocalValue (browser : Browser) (value : Number) : Option DatetimeLocal :=
  match finiteOrZero value with
  | .nan => none
  | .finite timestamp =>
    if timestamp ≤ 0 then some .empty
    else
      let localDate := ⌊timestamp⌋ - browser.timezoneOffset * 60000
      if lastDate < timestamp ∨ lastDate < localDate then none
      else if year10000 ≤ localDate then some .malformed
      else some (.minute (localDate / 60000))

def fromDatetimeLocalValue (browser : Browser) : DatetimeLocal → Number
  | .empty => .zero
  | .minute minute => .finite ((minute + browser.timezoneOffset) * 60000 : ℤ)
  | .malformed => .nan

def minutesToMilliseconds (minutes : Number) : Number :=
  Number.max .zero (minutes * minuteInMs).round

inductive WorkflowScheduleMode where
  | absoluteMs
  | relativeMinutes
  deriving DecidableEq

structure WorkflowScheduleContext where
  mode : WorkflowScheduleMode
  anchorMs : Option Number := none
  deriving DecidableEq

/-- `Date.UTC(2000, 0, 1)`. -/
def absoluteTimeFloorMs : Number := .finite 946684800000

def looksLikeAbsoluteTimestamp (value : Number) : Bool := absoluteTimeFloorMs.le value

def normalizeScheduleAnchorMs (now value : Number) : Number :=
  let resolvedValue := if Number.zero.lt value then value else now
  (resolvedValue / minuteInMs).floor * minuteInMs

def toDisplayTimestamp (rawValue : Number) (context : WorkflowScheduleContext)
    (zeroMeansUnset : Bool) : Number :=
  match context.mode with
  | .absoluteMs => rawValue
  | .relativeMinutes =>
    if zeroMeansUnset && rawValue.le .zero then .zero
    else context.anchorMs.getD .zero + rawValue * minuteInMs

def toDisplayDurationMs (rawValue : Number) (context : WorkflowScheduleContext) : Number :=
  match context.mode with
  | .absoluteMs => rawValue
  | .relativeMinutes => rawValue * minuteInMs

def fromDisplayTimestamp (displayValue : Number) (context : WorkflowScheduleContext)
    (zeroMeansUnset : Bool) : Number :=
  match context.mode with
  | .absoluteMs => displayValue
  | .relativeMinutes =>
    if zeroMeansUnset && displayValue.le .zero then .zero
    else Number.max .zero ((displayValue - context.anchorMs.getD .zero) / minuteInMs).round

def fromDisplayDurationMs (displayValue : Number) (context : WorkflowScheduleContext) : Number :=
  match context.mode with
  | .absoluteMs => displayValue
  | .relativeMinutes => Number.max .zero (displayValue / minuteInMs).round

/-- The times of the tasks and of the assignments that are set. -/
def timeCandidates (tasks : List TaskConfig) (assignments : List Assignment) : List Number :=
  ((tasks.flatMap fun task =>
      [parseNumber task.requestedTime, parseNumber task.latestStartTime,
        parseNumber task.deadline]) ++
    assignments.flatMap fun assignment =>
      [parseNumber assignment.startTime, parseNumber assignment.endTime]).filter Number.zero.lt

def scheduleAnchorMs (now : ℕ) (summary : WorkflowSummary) : Number :=
  let createdAtUnixMs := parseNumber summary.createdAtUnixMs
  normalizeScheduleAnchorMs (.finite now)
    (if Number.zero.lt createdAtUnixMs then createdAtUnixMs
      else parseNumber summary.updatedAtUnixMs)

def deriveScheduleContext (now : ℕ) (summary : WorkflowSummary) (tasks : List TaskConfig)
    (assignments : List Assignment) : WorkflowScheduleContext :=
  if tasks.isEmpty && assignments.isEmpty then { mode := .absoluteMs }
  else if (timeCandidates tasks assignments).any looksLikeAbsoluteTimestamp
    then { mode := .absoluteMs }
  else { mode := .relativeMinutes, anchorMs := some (scheduleAnchorMs now summary) }

section Fields

variable {browser : Browser}

theorem formatTime_finite_isSome {text : ℤ → String} {q : ℚ} :
    (formatTime text (.finite q)).isSome ↔ q ≤ lastDate := by
  have hlast : (0 : ℚ) ≤ lastDate := by norm_num [lastDate]
  simp only [formatTime, finiteOrZero]
  split_ifs with hunset hlate
  · exact iff_of_true rfl (le_trans hunset hlast)
  · exact iff_of_false Bool.false_ne_true (not_le.mpr hlate)
  · exact iff_of_true rfl (not_lt.mp hlate)

theorem formatDateTime_isSome_iff {q : ℚ} :
    (formatDateTime browser (.finite q)).isSome ↔ q ≤ lastDate :=
  formatTime_finite_isSome

theorem formatTime_isSome (text : ℤ → String) (value : Number) :
    (formatTime text value).isSome = withinDates value := by
  rw [Bool.eq_iff_iff]
  cases value with
  | nan =>
    refine iff_of_true rfl ?_
    simp [withinDates, finiteOrZero, Number.zero, lastDate]
  | finite q =>
    rw [formatTime_finite_isSome, withinDates, finiteOrZero, Number.le_finite, decide_eq_true_iff]

/-- The limit of the years that a field keeps, as a time. -/
def yearLimit (browser : Browser) : ℤ := year10000 + browser.timezoneOffset * 60000

theorem yearLimit_bounds (browser : Browser) :
    0 < yearLimit browser ∧ yearLimit browser < 8640000000000000 := by
  have hzone := abs_lt.mp browser.withinDay
  rw [yearLimit, year10000]
  omega

/-- What a field gives back for the time that it is filled with. -/
def throughField (browser : Browser) (value : Number) : Option Number :=
  (toDatetimeLocalValue browser value).map (fromDatetimeLocalValue browser)

@[simp] theorem throughField_zero : throughField browser .zero = some .zero := rfl

theorem throughField_of_lt {x : ℤ} (hpos : 0 < x) (hyear : x < yearLimit browser) :
    throughField browser (.finite x) = some (.finite (x / 60000 * 60000 : ℤ)) := by
  have hzone := abs_lt.mp browser.withinDay
  have hlimit := (yearLimit_bounds browser).2
  have hlocal : x - browser.timezoneOffset * 60000 < year10000 := by
    rw [yearLimit] at hyear
    omega
  have hnotUnset : ¬(x : ℚ) ≤ 0 := by exact_mod_cast not_le.mpr hpos
  have hdate : ¬(lastDate < x ∨ lastDate < ((x - browser.timezoneOffset * 60000 : ℤ) : ℚ)) := by
    rw [not_or, not_lt, not_lt, lastDate]
    constructor
    · exact_mod_cast (hyear.trans hlimit).le
    · rw [year10000] at hlocal
      exact_mod_cast (show x - browser.timezoneOffset * 60000 ≤ 8640000000000000 by omega)
  have hfield : toDatetimeLocalValue browser (.finite x) =
      some (.minute ((x - browser.timezoneOffset * 60000) / 60000)) := by
    simp only [toDatetimeLocalValue, finiteOrZero, Int.floor_intCast]
    rw [if_neg hnotUnset, if_neg hdate, if_neg (not_le.mpr hlocal)]
  have hminute : ((x - browser.timezoneOffset * 60000) / 60000 + browser.timezoneOffset) * 60000 =
      x / 60000 * 60000 := by
    omega
  rw [throughField, hfield, Option.map_some, fromDatetimeLocalValue, hminute]

theorem throughField_of_le {q : ℚ} (hyear : yearLimit browser ≤ q) :
    throughField browser (.finite q) = none ∨ throughField browser (.finite q) = some .nan := by
  have hpos : (0 : ℚ) < q := lt_of_lt_of_le (by exact_mod_cast (yearLimit_bounds browser).1) hyear
  have hlocal : year10000 ≤ ⌊q⌋ - browser.timezoneOffset * 60000 := by
    have hfloor := Int.le_floor.mpr hyear
    rw [yearLimit] at hfloor
    omega
  simp only [throughField, toDatetimeLocalValue, finiteOrZero]
  rw [if_neg (not_le.mpr hpos), if_pos hlocal]
  split_ifs
  · exact Or.inl rfl
  · exact Or.inr rfl

end Fields

def minutesFrom (k : ℕ) : WorkflowScheduleContext where
  mode := .relativeMinutes
  anchorMs := some (.finite (double (k * 60000)))

theorem normalizeScheduleAnchorMs_eq (now : ℕ) (value : ℤ) :
    ∃ k : ℕ, normalizeScheduleAnchorMs (.finite now) (parseNumber value) =
      .finite (double (k * 60000)) := by
  obtain ⟨resolved, hnonneg, hresolved⟩ : ∃ resolved : ℚ, 0 ≤ resolved ∧
      (if Number.zero.lt (parseNumber value) then parseNumber value else .finite now) =
        .finite resolved := by
    by_cases hpos : 0 < double value
    · exact ⟨double value, hpos.le, if_pos (by simpa [Number.zero, parseNumber] using hpos)⟩
    · exact ⟨now, by positivity, if_neg (by simpa [Number.zero, parseNumber] using hpos)⟩
  have hfloor : 0 ≤ ⌊double (resolved / 60000)⌋ :=
    Int.floor_nonneg.mpr (double_nonneg (by positivity))
  refine ⟨⌊double (resolved / 60000)⌋.toNat, ?_⟩
  rw [normalizeScheduleAnchorMs, hresolved, minuteInMs, Number.finite_div, Number.floor_finite,
    Number.finite_mul, ← Int.cast_natCast, Int.toNat_of_nonneg hfloor]

theorem scheduleAnchorMs_eq (now : ℕ) (summary : WorkflowSummary) :
    ∃ k : ℕ, scheduleAnchorMs now summary = .finite (double (k * 60000)) := by
  simp only [scheduleAnchorMs, ← apply_ite parseNumber]
  exact normalizeScheduleAnchorMs_eq now _

theorem deriveScheduleContext_cases (now : ℕ) (summary : WorkflowSummary) (tasks : List TaskConfig)
    (assignments : List Assignment) :
    deriveScheduleContext now summary tasks assignments = { mode := .absoluteMs } ∨
      ∃ k, deriveScheduleContext now summary tasks assignments = minutesFrom k := by
  unfold deriveScheduleContext
  split_ifs with hempty habsolute
  · exact Or.inl rfl
  · exact Or.inl rfl
  · obtain ⟨k, hk⟩ := scheduleAnchorMs_eq now summary
    exact Or.inr ⟨k, by rw [hk, minutesFrom]⟩

section Shown

variable {k : ℕ} {r : ℤ}

/-- A time below 2^53 is shown exactly, and so is its anchor. -/
theorem shown_of_lt (hr : 0 ≤ r) (h : double (k * 60000) + r * 60000 < 2 ^ 53) :
    double (k * 60000) = k * 60000 ∧
      double (double (k * 60000) + double (double r * 60000)) = ((k + r) * 60000 : ℤ) := by
  have hrNonneg : (0 : ℚ) ≤ r := by exact_mod_cast hr
  have hanchorLt : double (k * 60000) < 2 ^ 53 := by linarith
  have hkLt : (k * 60000 : ℚ) < 2 ^ 53 :=
    lt_of_not_ge fun hge => absurd (le_double hge) (not_le.mpr hanchorLt)
  have hanchor : double (k * 60000) = k * 60000 := by
    have hvalue := double_intCast (n := k * 60000) (by
      rw [abs_of_nonneg (by positivity)]
      exact_mod_cast hkLt.le)
    exact_mod_cast hvalue
  rw [hanchor] at h
  have hminutes : r * 60000 < 2 ^ 53 := by
    have hk : (0 : ℚ) ≤ k * 60000 := by positivity
    have hlt : (r * 60000 : ℚ) < 2 ^ 53 := by linarith
    exact_mod_cast hlt
  have hraw : double r = r := double_intCast (by rw [abs_of_nonneg hr]; omega)
  have hscaled : double (r * 60000) = r * 60000 := by
    have hvalue := double_intCast (n := r * 60000) (by
      rw [abs_of_nonneg (by positivity)]
      exact hminutes.le)
    exact_mod_cast hvalue
  have hsum : double ((k + r) * 60000 : ℤ) = ((k + r) * 60000 : ℤ) := by
    refine double_intCast ?_
    rw [abs_of_nonneg (by positivity)]
    have hlt : ((k + r) * 60000 : ℚ) < 2 ^ 53 := by linarith
    exact_mod_cast hlt.le
  refine ⟨hanchor, ?_⟩
  rw [hraw, hscaled, hanchor, ← hsum]
  congr 1
  push_cast
  ring

theorem shown_of_le (hr : 0 ≤ r) (h : 2 ^ 53 ≤ double (k * 60000) + r * 60000) :
    2 ^ 53 ≤ double (double (k * 60000) + double (double r * 60000)) := by
  have hanchor : (0 : ℚ) ≤ double (k * 60000) := double_nonneg (by positivity)
  have hrNonneg : (0 : ℚ) ≤ r := by exact_mod_cast hr
  refine le_double ?_
  by_cases hlarge : (2 : ℚ) ^ 53 ≤ double r * 60000
  · have hscaled := le_double hlarge
    linarith
  · have hrawLt : double r < 2 ^ 53 := by
      have hnonneg := double_nonneg hrNonneg
      linarith
    have hrLt : (r : ℚ) < 2 ^ 53 :=
      lt_of_not_ge fun hge => absurd (le_double hge) (not_le.mpr hrawLt)
    have hraw : double r = r := double_intCast (by
      rw [abs_of_nonneg hr]
      exact_mod_cast hrLt.le)
    rw [hraw] at hlarge ⊢
    have hscaled : double (r * 60000) = r * 60000 := by
      have hvalue := double_intCast (n := r * 60000) (by
        rw [abs_of_nonneg (by positivity)]
        exact_mod_cast (not_le.mp hlarge).le)
      exact_mod_cast hvalue
    rw [hscaled]
    exact h

theorem double_pos_of_pos (hr : 0 < r) : 0 < double r := by
  have hone : double ((1 : ℤ) : ℚ) = (1 : ℤ) := double_intCast (by norm_num)
  calc (0 : ℚ) < (1 : ℤ) := by norm_num
    _ = double ((1 : ℤ) : ℚ) := hone.symm
    _ ≤ double r := double_mono (by exact_mod_cast hr)

theorem toDisplayTimestamp_minutesFrom {zeroMeansUnset : Bool}
    (hset : zeroMeansUnset = true → 0 < r) :
    toDisplayTimestamp (parseNumber r) (minutesFrom k) zeroMeansUnset =
      .finite (double (double (k * 60000) + double (double r * 60000))) := by
  have hnot : (zeroMeansUnset && (parseNumber r).le .zero) = false := by
    cases zeroMeansUnset with
    | false => rfl
    | true =>
      rw [Bool.true_and]
      simpa [parseNumber, Number.zero] using double_pos_of_pos (hset rfl)
  simp only [toDisplayTimestamp, minutesFrom, hnot, Bool.false_eq_true, if_false]
  rfl

/-- A time on a minute behind the anchor goes back to its number of minutes. -/
theorem fromDisplayTimestamp_minutesFrom {zeroMeansUnset : Bool} (hr : 0 ≤ r)
    (hanchor : double (k * 60000) = k * 60000) (hlt : (k + r) * 60000 < 2 ^ 53)
    (hset : zeroMeansUnset = true → 0 < k + r) :
    fromDisplayTimestamp (.finite ((k + r) * 60000 : ℤ)) (minutesFrom k) zeroMeansUnset =
      .finite r := by
  have hnot : (zeroMeansUnset && (Number.finite ((k + r) * 60000 : ℤ)).le .zero) = false := by
    cases zeroMeansUnset with
    | false => rfl
    | true =>
      have hpos : 0 < (k + r) * 60000 := by
        have hsum := hset rfl
        omega
      have hcast : (0 : ℚ) < ((k + r) * 60000 : ℤ) := by exact_mod_cast hpos
      rw [Bool.true_and, Number.zero, Number.le_finite]
      exact decide_eq_false (not_le.mpr hcast)
  have hbehind : double ((((k + r) * 60000 : ℤ) : ℚ) - k * 60000) = (r * 60000 : ℤ) := by
    rw [← double_intCast (n := r * 60000) (by rw [abs_of_nonneg (by positivity)]; omega)]
    congr 1
    push_cast
    ring
  have hminutes : double (((r * 60000 : ℤ) : ℚ) / 60000) = r := by
    rw [← double_intCast (n := r) (by rw [abs_of_nonneg hr]; omega)]
    congr 1
    push_cast
    field_simp
  have hnumber : Number.max .zero (Number.finite r).round = .finite r := by
    have hcast : (0 : ℚ) ≤ r := by exact_mod_cast hr
    rw [Number.round_intCast, Number.zero, Number.max_finite, max_eq_right hcast]
  have hanchorMs : (some (Number.finite (double (k * 60000)))).getD .zero =
      .finite (k * 60000) := by
    rw [Option.getD_some, hanchor]
  simp only [fromDisplayTimestamp, minutesFrom, hnot, Bool.false_eq_true, if_false]
  rw [hanchorMs, Number.finite_sub, hbehind, minuteInMs, Number.finite_div, hminutes, hnumber]

theorem toDisplayTimestamp_unset :
    toDisplayTimestamp (parseNumber 0) (minutesFrom k) true = .zero := by
  have hzero : parseNumber 0 = .zero := by rw [parseNumber, Int.cast_zero, double_zero, Number.zero]
  rw [hzero]
  rfl

/-- A time below 2^53 is shown exactly and goes back to its number of minutes. -/
theorem minutes_return {zeroMeansUnset : Bool} (hr : 0 ≤ r) (hset : zeroMeansUnset = true → 0 < r)
    (h : double (k * 60000) + r * 60000 < 2 ^ 53) :
    double (k * 60000) + r * 60000 = ((k + r) * 60000 : ℤ) ∧ (k + r) * 60000 < 2 ^ 53 ∧
      toDisplayTimestamp (parseNumber r) (minutesFrom k) zeroMeansUnset =
        .finite ((k + r) * 60000 : ℤ) ∧
      fromDisplayTimestamp (.finite ((k + r) * 60000 : ℤ)) (minutesFrom k) zeroMeansUnset =
        .finite r := by
  obtain ⟨hanchor, hexact⟩ := shown_of_lt hr h
  have hvalue : double (k * 60000) + r * 60000 = ((k + r) * 60000 : ℤ) := by
    rw [hanchor]
    push_cast
    ring
  have hlt : (k + r) * 60000 < 2 ^ 53 := by
    rw [hvalue] at h
    exact_mod_cast h
  refine ⟨hvalue, hlt, ?_, fromDisplayTimestamp_minutesFrom hr hanchor hlt fun hunset => ?_⟩
  · rw [toDisplayTimestamp_minutesFrom hset, hexact]
  · have hpos := hset hunset
    omega

end Shown

def throughMinutes (minutes : ℤ) : ℤ := ⌊double (double (minutes * 60000) / 60000) + 1 / 2⌋

section Durations

variable {duration : ℤ}

theorem throughMinutes_nonneg (h : 0 ≤ duration) : 0 ≤ throughMinutes duration := by
  have hscaled := double_nonneg (q := duration * 60000) (by positivity)
  have hback := double_nonneg (q := double (duration * 60000) / 60000) (by positivity)
  exact Int.floor_nonneg.mpr (by linarith)

/-- The two roundings are too small to matter up to 2^51 minutes. -/
theorem throughMinutes_eq_self (hlow : 0 ≤ duration) (hhigh : duration < 2 ^ 51) :
    throughMinutes duration = duration := by
  have hd : (0 : ℚ) ≤ duration := by exact_mod_cast hlow
  have hlt : (duration : ℚ) ≤ 2 ^ 51 - 1 := by exact_mod_cast (show duration ≤ 2 ^ 51 - 1 by omega)
  have hscaled := abs_double_sub_le (duration * 60000 : ℚ)
  rw [abs_of_nonneg (by positivity : (0 : ℚ) ≤ duration * 60000), abs_le] at hscaled
  have hnonneg := double_nonneg (q := duration * 60000) (by positivity)
  have hback := abs_double_sub_le (double (duration * 60000) / 60000)
  rw [abs_of_nonneg (div_nonneg hnonneg (by norm_num)), abs_le] at hback
  rw [throughMinutes, Int.floor_eq_iff]
  norm_num at hscaled hback hlt ⊢
  constructor <;> linarith

theorem max_zero_round_of_nonneg {q : ℚ} (h : 0 ≤ q) :
    Number.max .zero (Number.finite q).round = .finite (⌊q + 1 / 2⌋ : ℤ) := by
  have hfloor : 0 ≤ ⌊q + 1 / 2⌋ := Int.floor_nonneg.mpr (by linarith)
  have hcast : (0 : ℚ) ≤ (⌊q + 1 / 2⌋ : ℤ) := by exact_mod_cast hfloor
  rw [Number.round_finite, Number.zero, Number.max_finite, max_eq_right hcast]

end Durations

end TaskOrchestrator.Console
