import TaskOrchestrator.Core.Planning
import Mathlib.Order.Bounds.Basic

/-!
# Earliest starts

A search goes through windows as they are listed and through each of them upwards, and takes the
first instant that has the capacity. It finds the least of all such instants exactly when the
window in which it stops admits the earliest, so always when the windows are listed by their
start. `earliestStart` sorts them first, and finds it whatever the order in which windows with one
start are tried.
-/

namespace TaskOrchestrator.Core

open Library

set_option autoImplicit false

/-- A start at which a task fits on an actor, given its reservations. A task without duration
needs neither a window nor capacity. -/
structure FitsAt (actor : Actor) (reservations : List ScheduledInterval) (releaseTime : Time)
    (duration : Duration) (demand : Int) (start : Time) : Prop where
  released : releaseTime ≤ start
  window : 0 < duration → ∃ window ∈ actor.availabilityWindows, window.start ≤ start ∧
    start + duration ≤ window.stop
  capacity : ∀ instant, start ≤ instant → instant < start + duration →
    concurrentDemandAt reservations instant + demand ≤ actor.capacity

theorem int_range_pairwise (lower upper : Int) : (Int.range lower upper).Pairwise (· < ·) := by
  unfold Int.range
  rw [List.pairwise_map]
  apply List.pairwise_lt_range.imp
  intro a b hab
  omega

theorem find?_least {instants : List Int} (hsorted : instants.Pairwise (· < ·)) {p : Int → Bool}
    {first : Int} (h : instants.find? p = some first) {other : Int} (hother : other ∈ instants)
    (hp : p other = true) :
    first ≤ other := by
  obtain ⟨-, before, rest, rfl, hbefore⟩ := List.find?_eq_some_iff_append.mp h
  rcases List.mem_append.mp hother with hother | hother
  · have hnot := hbefore other hother
    simp [hp] at hnot
  · rcases List.mem_cons.mp hother with rfl | hother
    · exact le_refl _
    · have htail := (List.pairwise_append.mp hsorted).2.1
      exact le_of_lt (List.rel_of_pairwise_cons htail hother)

theorem pairwise_sortBy_start (windows : List AvailabilityWindow) :
    (sortBy (fun v w => decide (v.start < w.start)) windows).Pairwise fun v w =>
      v.start ≤ w.start :=
  (pairwise_sortBy (strictWeak_byKey AvailabilityWindow.start) windows).imp byKey_eq_false.mp

section Search

variable (reservations : List ScheduledInterval) (capacity : Int) (releaseTime : Time)
variable (duration : Duration)
variable (demand : Int)

def startsIn (window : AvailabilityWindow) : Set Time :=
  { start | (releaseTime ≤ start ∧ window.start ≤ start ∧ start + duration ≤ window.stop) ∧
    ∀ instant, start ≤ instant → instant < start + duration →
      concurrentDemandAt reservations instant + demand ≤ capacity }

def startsInSome (windows : List AvailabilityWindow) : Set Time :=
  { start | ∃ window ∈ windows,
    start ∈ startsIn reservations capacity releaseTime duration demand window }

def searchWindow (window : AvailabilityWindow) : Option Time :=
  (Int.range (max window.start releaseTime) (window.stop - duration + 1)).find? fun candidate =>
    hasCapacityForInterval reservations capacity candidate (candidate + duration) demand

def searchWindows (windows : List AvailabilityWindow) : Option Time :=
  windows.findSome? (searchWindow reservations capacity releaseTime duration demand)

def FirstAdmitsEarliest (windows : List AvailabilityWindow) : Prop :=
  ∀ before window after, windows = before ++ window :: after →
    (∀ earlier ∈ before, startsIn reservations capacity releaseTime duration demand earlier = ∅) →
      (startsIn reservations capacity releaseTime duration demand window).Nonempty →
        ∀ later ∈ after, ∀ start ∈ startsIn reservations capacity releaseTime duration demand later,
          ∃ first ∈ startsIn reservations capacity releaseTime duration demand window, first ≤ start

variable {reservations capacity releaseTime duration demand}

theorem mem_startsIn_iff {window : AvailabilityWindow} {start : Time} :
    start ∈ startsIn reservations capacity releaseTime duration demand window ↔
      start ∈ Int.range (max window.start releaseTime) (window.stop - duration + 1) ∧
        hasCapacityForInterval reservations capacity start (start + duration) demand = true := by
  have hstop : start < window.stop - duration + 1 ↔ start + duration ≤ window.stop :=
    Int.lt_add_one_iff.trans le_sub_iff_add_le
  have hstart : max window.start releaseTime ≤ start ↔ releaseTime ≤ start ∧
      window.start ≤ start := by
    rw [max_le_iff, and_comm]
  rw [Int.mem_range_iff, hstart, hstop, hasCapacityForInterval_iff, and_assoc]
  exact (and_congr_left' and_assoc.symm).trans and_assoc

theorem searchWindow_eq_none {window : AvailabilityWindow} :
    searchWindow reservations capacity releaseTime duration demand window = none ↔
      startsIn reservations capacity releaseTime duration demand window = ∅ := by
  rw [searchWindow, List.find?_eq_none, Set.eq_empty_iff_forall_notMem]
  simp only [mem_startsIn_iff, not_and]

theorem searchWindow_isLeast {window : AvailabilityWindow} {start : Time}
    (h : searchWindow reservations capacity releaseTime duration demand window = some start) :
    IsLeast (startsIn reservations capacity releaseTime duration demand window) start := by
  constructor
  · have hcapacity := List.find?_some h
    exact mem_startsIn_iff.mpr ⟨List.mem_of_find?_eq_some h, hcapacity⟩
  · intro other hother
    obtain ⟨hmem, hcapacity⟩ := mem_startsIn_iff.mp hother
    exact find?_least (int_range_pairwise _ _) h hmem hcapacity

theorem searchWindows_eq_none {windows : List AvailabilityWindow} :
    searchWindows reservations capacity releaseTime duration demand windows = none ↔
      startsInSome reservations capacity releaseTime duration demand windows = ∅ := by
  simp only [searchWindows, List.findSome?_eq_none_iff, searchWindow_eq_none,
    Set.eq_empty_iff_forall_notMem, startsInSome, Set.mem_ofPred_eq, not_exists, not_and]
  exact ⟨fun h start window hwindow => h window hwindow start, fun h window hwindow start =>
    h start window hwindow⟩

theorem searchWindows_eq_some {windows : List AvailabilityWindow} {start : Time}
    (h : searchWindows reservations capacity releaseTime duration demand windows = some start) :
    ∃ before window after, windows = before ++ window :: after ∧
      (∀ earlier ∈ before, startsIn reservations capacity releaseTime duration demand earlier = ∅) ∧
      IsLeast (startsIn reservations capacity releaseTime duration demand window) start := by
  obtain ⟨before, window, after, hsplit, hfound, hbefore⟩ := List.findSome?_eq_some_iff.mp h
  refine ⟨before, window, after, hsplit, fun earlier hearlier => ?_, searchWindow_isLeast hfound⟩
  exact searchWindow_eq_none.mp (hbefore earlier hearlier)

theorem searchWindows_mem {windows : List AvailabilityWindow} {start : Time}
    (h : searchWindows reservations capacity releaseTime duration demand windows = some start) :
    start ∈ startsInSome reservations capacity releaseTime duration demand windows := by
  obtain ⟨before, window, after, rfl, -, hleast⟩ := searchWindows_eq_some h
  exact ⟨window, by simp, hleast.1⟩

def FindsLeast (found : Option Time) (starts : Set Time) : Prop :=
  (∀ start, found = some start ↔ IsLeast starts start) ∧ (found = none ↔ starts = ∅)

theorem findsLeast_searchWindows_iff {windows : List AvailabilityWindow} :
    FindsLeast (searchWindows reservations capacity releaseTime duration demand windows)
        (startsInSome reservations capacity releaseTime duration demand windows) ↔
      FirstAdmitsEarliest reservations capacity releaseTime duration demand windows := by
  constructor
  · rintro ⟨hfound, -⟩ before window after rfl hbefore hadmits later hlater start hstart
    obtain ⟨first, hfirst⟩ : ∃ first,
        searchWindow reservations capacity releaseTime duration demand window =
        some first := by
      rw [← Option.ne_none_iff_exists', ne_eq, searchWindow_eq_none]
      exact Set.nonempty_iff_ne_empty.mp hadmits
    have hsearch : searchWindows reservations capacity releaseTime duration demand
        (before ++ window :: after) = some first := by
      apply List.findSome?_eq_some_iff.mpr
      exact ⟨before, window, after, rfl, hfirst, fun earlier hearlier =>
        searchWindow_eq_none.mpr (hbefore earlier hearlier)⟩
    have hmem : start ∈ startsInSome reservations capacity releaseTime duration demand
        (before ++ window :: after) :=
      ⟨later, by simp [hlater], hstart⟩
    exact ⟨first, (searchWindow_isLeast hfirst).1, ((hfound first).mp hsearch).2 hmem⟩
  · intro hadmits
    have hleast : ∀ start, searchWindows reservations capacity releaseTime duration demand windows =
        some start →
        IsLeast (startsInSome reservations capacity releaseTime duration demand windows) start := by
      intro start hsearch
      obtain ⟨before, window, after, rfl, hbefore, hfirst⟩ := searchWindows_eq_some hsearch
      refine ⟨searchWindows_mem hsearch, ?_⟩
      rintro other ⟨holder, hholder, hother⟩
      rcases List.mem_append.mp hholder with hearlier | hlater
      · rw [hbefore holder hearlier] at hother
        exact absurd hother (Set.notMem_empty other)
      · rcases List.mem_cons.mp hlater with rfl | hlater
        · exact hfirst.2 hother
        · obtain ⟨first, hmem, hle⟩ :=
            hadmits before window after rfl hbefore ⟨start, hfirst.1⟩ holder hlater other hother
          exact le_trans (hfirst.2 hmem) hle
    refine ⟨fun start => ⟨hleast start, fun hstart => ?_⟩, searchWindows_eq_none⟩
    cases hsearch : searchWindows reservations capacity releaseTime duration demand windows with
    | none =>
      rw [searchWindows_eq_none.mp hsearch] at hstart
      exact absurd hstart.1 (Set.notMem_empty start)
    | some found => exact congrArg some ((hleast found hsearch).unique hstart)

theorem firstAdmitsEarliest_of_sorted {windows : List AvailabilityWindow}
    (hsorted : windows.Pairwise fun v w => v.start ≤ w.start) :
    FirstAdmitsEarliest reservations capacity releaseTime duration demand windows := by
  rintro before window after rfl - ⟨first, hfirst⟩ later hlater start hstart
  have hordered : window.start ≤ later.start :=
    List.rel_of_pairwise_cons (List.pairwise_append.mp hsorted).2.1 hlater
  obtain ⟨⟨hrelease, hafter, -⟩, hcapacity⟩ := hstart
  by_cases hinside : start + duration ≤ window.stop
  · exact ⟨start, ⟨⟨hrelease, le_trans hordered hafter, hinside⟩, hcapacity⟩, le_refl _⟩
  · -- The window ends before the start could, so what it admits starts before.
    refine ⟨first, hfirst, ?_⟩
    have hends : first + duration < start + duration :=
      lt_of_le_of_lt hfirst.1.2.2 (not_le.mp hinside)
    exact le_of_lt (Int.lt_of_add_lt_add_right hends)

theorem startsInSome_perm {windows windows' : List AvailabilityWindow}
    (hperm : windows.Perm windows') :
    startsInSome reservations capacity releaseTime duration demand windows =
      startsInSome reservations capacity releaseTime duration demand windows' := by
  ext start
  exact exists_congr fun window => and_congr_left' hperm.mem_iff

end Search

section Actor

variable {actor : Actor} {reservations : List ScheduledInterval} {releaseTime : Time}
variable {duration : Duration}
variable {demand : Int}

theorem findsLeast_earliestStart (hduration : 0 < duration) :
    FindsLeast (earliestStart actor reservations releaseTime duration demand)
      (startsInSome reservations actor.capacity releaseTime duration demand
        actor.availabilityWindows) := by
  have hsearch : earliestStart actor reservations releaseTime duration demand =
      searchWindows reservations actor.capacity releaseTime duration demand
        (sortBy (fun v w => decide (v.start < w.start)) actor.availabilityWindows) :=
    if_neg (not_le.mpr hduration)
  rw [hsearch, ← startsInSome_perm
    (perm_sortBy (fun v w => decide (v.start < w.start)) actor.availabilityWindows)]
  exact findsLeast_searchWindows_iff.mpr (firstAdmitsEarliest_of_sorted (pairwise_sortBy_start _))

theorem earliestStart_fits {start : Time}
    (h : earliestStart actor reservations releaseTime duration demand = some start) :
    FitsAt actor reservations releaseTime duration demand start := by
  obtain ⟨hrelease, hpositive⟩ := earliestStart_sound h
  refine ⟨hrelease, fun hduration => (hpositive hduration).1, ?_⟩
  intro instant hstart hstop
  have hduration : 0 < duration := pos_of_lt_add_right (lt_of_le_of_lt hstart hstop)
  exact (hpositive hduration).2 instant hstart hstop

theorem FitsAt.earliestStart_le {start : Time}
    (h : FitsAt actor reservations releaseTime duration demand start) :
    ∃ first, earliestStart actor reservations releaseTime duration demand = some first ∧
    first ≤ start := by
  by_cases hduration : 0 < duration
  · obtain ⟨window, hwindow, hstart, hstop⟩ := h.window hduration
    have hmem : start ∈ startsInSome reservations actor.capacity releaseTime duration demand
        actor.availabilityWindows := ⟨window, hwindow, ⟨h.released, hstart, hstop⟩, h.capacity⟩
    have hleast : FindsLeast (earliestStart actor reservations releaseTime duration demand)
        (startsInSome reservations actor.capacity releaseTime duration demand
          actor.availabilityWindows) :=
      findsLeast_earliestStart hduration
    obtain ⟨hfound, hnone⟩ := hleast
    cases hfirst : earliestStart actor reservations releaseTime duration demand with
    | none =>
      rw [hnone.mp hfirst] at hmem
      exact absurd hmem (Set.notMem_empty start)
    | some first => exact ⟨first, rfl, ((hfound first).mp hfirst).2 hmem⟩
  · exact ⟨releaseTime, if_pos (not_lt.mp hduration), h.released⟩

end Actor

end TaskOrchestrator.Core
