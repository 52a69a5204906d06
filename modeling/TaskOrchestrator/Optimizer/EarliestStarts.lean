import TaskOrchestrator.Core.EarliestStart
import TaskOrchestrator.Optimizer.IndexedExact

/-!
# The two searches for a start

The scheduler and the indexed exact backend search the windows of an actor with the same loop.
The scheduler sorts them by their start first. The backend takes them as they are listed, so it
finds the least start only where the window listed first of those that admit one admits it.
-/

namespace TaskOrchestrator.Optimizer

open Library
open TaskOrchestrator.Core hiding earliestStart

set_option autoImplicit false

variable {actor : OptimizerActor} {reservations : List ScheduledInterval} {releaseTime : Time}
variable {duration : Duration}
variable {demand : Int}

theorem earliestStart_eq_search (hduration : 0 < duration) :
    earliestStart actor reservations releaseTime duration demand =
      searchWindows reservations actor.capacity releaseTime duration demand
        actor.availabilityWindows :=
  if_neg (not_le.mpr hduration)

/-- In windows that are listed by their start, no start at which the capacity is free comes
before the one that is found. -/
theorem earliestStart_le {time : Time}
    (hordered : actor.availabilityWindows.Pairwise fun v w => v.start ≤ w.start)
    (hrelease : releaseTime ≤ time)
    (hfree : hasCapacityForInterval reservations actor.capacity time (time + duration) demand =
      true)
    (hwindow : 0 < duration → ∃ window ∈ actor.availabilityWindows, window.start ≤ time ∧
      time + duration ≤ window.stop) :
    ∃ start, earliestStart actor reservations releaseTime duration demand = some start ∧
    start ≤ time := by
  by_cases hduration : 0 < duration
  · obtain ⟨window, hmem, hstart, hstop⟩ := hwindow hduration
    have htime : time ∈ startsInSome reservations actor.capacity releaseTime duration demand
        actor.availabilityWindows :=
      ⟨window, hmem, ⟨hrelease, hstart, hstop⟩, (hasCapacityForInterval_iff _ _ _ _ _).mp hfree⟩
    have hearliest : FirstAdmitsEarliest reservations actor.capacity releaseTime duration demand
        actor.availabilityWindows := firstAdmitsEarliest_of_sorted hordered
    obtain ⟨hfound, hnone⟩ := findsLeast_searchWindows_iff.mpr hearliest
    rw [earliestStart_eq_search hduration]
    cases hstart : searchWindows reservations actor.capacity releaseTime duration demand
      actor.availabilityWindows with
    | none =>
      rw [hnone.mp hstart] at htime
      exact absurd htime (Set.notMem_empty time)
    | some start => exact ⟨start, rfl, ((hfound start).mp hstart).2 htime⟩
  · exact ⟨releaseTime, if_pos (not_lt.mp hduration), hrelease⟩

/-- The scheduler finds the least start and the backend finds one whenever there is one. Both
find the least and agree exactly when, of the windows that admit a start, the one that is listed
first admits the earliest. -/
theorem earliest_starts_least_iff {runtimeActor : Actor}
    (hcapacity : actor.capacity = runtimeActor.capacity)
    (hwindows : actor.availabilityWindows = runtimeActor.availabilityWindows)
    (hduration : 0 < duration) :
    let starts := startsInSome reservations runtimeActor.capacity releaseTime duration demand
      runtimeActor.availabilityWindows
    let runtimeStart := Core.earliestStart runtimeActor reservations releaseTime duration demand
    let backendStart := earliestStart actor reservations releaseTime duration demand
    FindsLeast runtimeStart starts ∧ (backendStart = none ↔ starts = ∅) ∧
      (FindsLeast runtimeStart starts ∧ FindsLeast backendStart starts ∧
        runtimeStart = backendStart ↔
        FirstAdmitsEarliest reservations runtimeActor.capacity releaseTime duration demand
          runtimeActor.availabilityWindows) := by
  intro starts runtimeStart backendStart
  have hruntime : FindsLeast runtimeStart starts := findsLeast_earliestStart hduration
  have hbackend : backendStart = searchWindows reservations runtimeActor.capacity releaseTime
      duration demand runtimeActor.availabilityWindows := by
    rw [← hcapacity, ← hwindows]
    exact earliestStart_eq_search hduration
  refine ⟨hruntime, ?_, ?_⟩
  · rw [hbackend]
    exact searchWindows_eq_none
  · rw [← findsLeast_searchWindows_iff, ← hbackend]
    constructor
    · exact fun h => h.2.1
    · intro hleast
      refine ⟨hruntime, hleast, Option.ext fun start => ?_⟩
      exact (hruntime.1 start).trans (hleast.1 start).symm

/-- A busy actor whose windows are listed by their start. -/
theorem earliest_starts_least_sorted :
    let starts :=
      startsInSome [{ start := 0, stop := 12 }] 1 0 5 1
        [{ start := 0, stop := 15 }, { start := 10, stop := 20 }]
    let runtimeStart :=
      Core.earliestStart
        { id := "x", availabilityWindows := [{ start := 0, stop := 15 },
          { start := 10, stop := 20 }] }
        [{ start := 0, stop := 12 }] 0 5 1
    let backendStart :=
      earliestStart
        { id := "x", availabilityWindows := [{ start := 0, stop := 15 },
          { start := 10, stop := 20 }] }
        [{ start := 0, stop := 12 }] 0 5 1
    FindsLeast runtimeStart starts ∧ FindsLeast backendStart starts ∧
      runtimeStart = backendStart := by
  refine (earliest_starts_least_iff rfl rfl (by decide)).2.2.mpr ?_
  exact firstAdmitsEarliest_of_sorted (by decide)

/-- The window that is listed second starts earlier. -/
theorem earliest_start_missed :
    let windows : List AvailabilityWindow :=
      [{ start := 10, stop := 20 }, { start := 0, stop := 5 }]
    earliestStart { id := "x", availabilityWindows := windows } [] 0 5 1 = some 10 ∧
      Core.earliestStart { id := "x", availabilityWindows := windows } [] 0 5 1 = some 0 ∧
      ¬IsLeast (startsInSome [] 1 0 5 1 windows) 10 := by
  intro windows
  refine ⟨by decide, by decide, fun hleast => ?_⟩
  have hzero : (0 : Time) ∈ startsInSome [] 1 0 5 1 windows :=
    ⟨{ start := 0, stop := 5 }, by simp [windows], ⟨by decide, by decide, by decide⟩,
      fun _ _ _ => le_refl (1 : Int)⟩
  exact absurd (hleast.2 hzero) (by decide)

end TaskOrchestrator.Optimizer
