import TaskOrchestrator.Core.EarliestStart

/-!
# The next available start of an actor

`next_available_start` goes through the windows in the order of their start. A window in which the
task has no room moves the candidate to its end, also where it ends before the candidate, so that
the search may fall back behind the requested time, and it passes over a part of a window that
overlaps with the one before.
-/

namespace TaskOrchestrator.Core

set_option autoImplicit false

def AvailabilityWindow.contains (window : AvailabilityWindow) (t : Time) : Bool :=
  t ≥ window.start && t < window.stop

def canAcceptAt (actor : Actor) (t : Time) (duration : Duration) : Bool :=
  if actor.currentLoad ≥ actor.capacity then false
  else actor.availabilityWindows.any fun window =>
    window.contains t && decide (t + duration ≤ window.stop)

/-- A sort by start. Windows with the same start may come in any order. -/
structure WindowSort where
  sort : List AvailabilityWindow → List AvailabilityWindow
  perm : ∀ windows, (sort windows).Perm windows
  sorted : ∀ windows, (sort windows).Pairwise fun v w => v.start ≤ w.start

def startInWindows (duration : Duration) : Time → List AvailabilityWindow → Option Time
  | _, [] => none
  | candidate, window :: rest =>
    let candidate := max candidate window.start
    if candidate + duration ≤ window.stop then some candidate
      else startInWindows duration window.stop rest

def nextAvailableStart (order : WindowSort) (actor : Actor) (t : Time)
    (duration : Duration) : Option Time :=
  if actor.currentLoad ≥ actor.capacity then none
  else startInWindows duration t (order.sort actor.availabilityWindows)

def acceptedStarts (actor : Actor) (t : Time) (duration : Duration) : Set Time :=
  { start | t ≤ start ∧ canAcceptAt actor start duration = true }

def HasRoom (duration : Duration) (t : Time) (window : AvailabilityWindow) : Prop :=
  max t window.start + duration ≤ window.stop

inductive FirstHandover (duration : Duration) :
    List AvailabilityWindow → AvailabilityWindow → AvailabilityWindow → Prop where
  | here {v w : AvailabilityWindow} {rest : List AvailabilityWindow}
    (hroom : HasRoom duration v.stop w) :
      FirstHandover duration (v :: w :: rest) v w
  | later {v w x y : AvailabilityWindow} {rest : List AvailabilityWindow}
    (hroom : ¬HasRoom duration v.stop w)
      (hlater : FirstHandover duration (w :: rest) x y) :
        FirstHandover duration (v :: w :: rest) x y

/-- The first window has room from the time on; or the first window that has room from the end of
its predecessor on has it at or after the time, and no window has earlier room from the time on; or
there is neither such a window nor one with room from the time on. -/
def ReachesEarliest (duration : Duration) (t : Time) (windows : List AvailabilityWindow) : Prop :=
  (∃ first ∈ windows.head?, HasRoom duration t first) ∨
    (∃ v w, FirstHandover duration windows v w ∧ (t ≤ v.stop ∨ t ≤ w.start) ∧
      ∀ window ∈ windows, HasRoom duration t window → max v.stop w.start ≤ max t window.start) ∨
    (¬∃ v w, FirstHandover duration windows v w) ∧ ∀ window ∈ windows, ¬HasRoom duration t window

section Loop

variable {duration : Duration} {t : Time} {windows : List AvailabilityWindow}

theorem startInWindows_of_room {window : AvailabilityWindow} (hroom : HasRoom duration t window)
    (rest : List AvailabilityWindow) :
    startInWindows duration t (window :: rest) = some (max t window.start) :=
  if_pos hroom

theorem startInWindows_of_handover {v w : AvailabilityWindow}
    (h : FirstHandover duration windows v w)
    (hfirst : ∀ first ∈ windows.head?, ¬HasRoom duration t first) :
    startInWindows duration t windows = some (max v.stop w.start) := by
  induction h generalizing t with
  | here hroom => exact (if_neg (hfirst _ rfl)).trans (startInWindows_of_room hroom _)
  | later hroom _ ih =>
    refine (if_neg (hfirst _ rfl)).trans (ih fun first hmem => ?_)
    obtain rfl := Option.some.inj hmem
    exact hroom

theorem startInWindows_of_no_handover (h : ¬∃ v w, FirstHandover duration windows v w)
    (hfirst : ∀ first ∈ windows.head?, ¬HasRoom duration t first) :
    startInWindows duration t windows = none := by
  induction windows generalizing t with
  | nil => rfl
  | cons v rest ih =>
    refine (if_neg (hfirst v rfl)).trans (ih ?_ fun w hw hroom => ?_)
    · rintro ⟨x, y, hxy⟩
      cases rest with
      | nil => nomatch hxy
      | cons w rest =>
        by_cases hroom : HasRoom duration v.stop w
        · exact h ⟨v, w, .here hroom⟩
        · exact h ⟨x, y, .later hroom hxy⟩
    · cases rest with
      | nil => nomatch hw
      | cons u rest =>
        obtain rfl := Option.some.inj hw
        exact h ⟨v, u, .here hroom⟩

theorem mem_of_firstHandover {v w : AvailabilityWindow} (h : FirstHandover duration windows v w) :
    w ∈ windows ∧ HasRoom duration v.stop w := by
  induction h with
  | here hroom => exact ⟨by simp, hroom⟩
  | later _ _ ih => exact ⟨List.mem_cons_of_mem _ ih.1, ih.2⟩

end Loop

section Accepted

variable {actor : Actor} {duration : Duration} {t : Time}

theorem mem_acceptedStarts_iff (hload : actor.currentLoad < actor.capacity)
    (hduration : 0 < duration) {start : Time} :
    start ∈ acceptedStarts actor t duration ↔
      t ≤ start ∧ ∃ window ∈ actor.availabilityWindows, window.start ≤ start ∧
        start + duration ≤ window.stop := by
  have haccepts : canAcceptAt actor start duration =
      actor.availabilityWindows.any fun window =>
        window.contains start && decide (start + duration ≤ window.stop) :=
    if_neg (not_le.mpr hload)
  change t ≤ start ∧ canAcceptAt actor start duration = true ↔ _
  simp only [haccepts, List.any_eq_true, AvailabilityWindow.contains, Bool.and_eq_true,
    decide_eq_true_eq]
  refine and_congr_right fun _ => exists_congr fun window => and_congr_right fun _ => ?_
  constructor
  · rintro ⟨⟨hstart, -⟩, hstop⟩
    exact ⟨hstart, hstop⟩
  · rintro ⟨hstart, hstop⟩
    exact ⟨⟨hstart, lt_of_lt_of_le (lt_add_of_pos_right start hduration) hstop⟩, hstop⟩

theorem mem_acceptedStarts_of_room (hload : actor.currentLoad < actor.capacity)
    (hduration : 0 < duration) {window : AvailabilityWindow}
    (hwindow : window ∈ actor.availabilityWindows) (hroom : HasRoom duration t window) :
    max t window.start ∈ acceptedStarts actor t duration :=
  (mem_acceptedStarts_iff hload hduration).mpr
    ⟨le_max_left _ _, window, hwindow, le_max_right _ _, hroom⟩

theorem room_of_mem_acceptedStarts (hload : actor.currentLoad < actor.capacity)
    (hduration : 0 < duration) {start : Time} (hstart : start ∈ acceptedStarts actor t duration) :
    ∃ window ∈ actor.availabilityWindows, HasRoom duration t window ∧ max t window.start ≤
    start := by
  obtain ⟨hafter, window, hwindow, hbegins, hends⟩ :=
    (mem_acceptedStarts_iff hload hduration).mp hstart
  have hle : max t window.start ≤ start := max_le hafter hbegins
  exact ⟨window, hwindow, le_trans (Int.add_le_add_right hle duration) hends, hle⟩

theorem acceptedStarts_eq_empty_iff (hload : actor.currentLoad < actor.capacity)
    (hduration : 0 < duration) :
    acceptedStarts actor t duration = ∅ ↔
      ∀ window ∈ actor.availabilityWindows, ¬HasRoom duration t window := by
  rw [Set.eq_empty_iff_forall_notMem]
  constructor
  · intro hempty window hwindow hroom
    exact hempty _ (mem_acceptedStarts_of_room hload hduration hwindow hroom)
  · intro hnone start hstart
    obtain ⟨window, hwindow, hroom, -⟩ := room_of_mem_acceptedStarts hload hduration hstart
    exact hnone window hwindow hroom

theorem isLeast_acceptedStarts_iff (hload : actor.currentLoad < actor.capacity)
    (hduration : 0 < duration) {start : Time} :
    IsLeast (acceptedStarts actor t duration) start ↔
      start ∈ acceptedStarts actor t duration ∧
        ∀ window ∈ actor.availabilityWindows, HasRoom duration t window →
        start ≤ max t window.start := by
  refine and_congr_right fun _ =>
    ⟨fun hleast window hwindow hroom => ?_, fun hleast other hother => ?_⟩
  · exact hleast (mem_acceptedStarts_of_room hload hduration hwindow hroom)
  · obtain ⟨window, hwindow, hroom, hle⟩ := room_of_mem_acceptedStarts hload hduration hother
    exact le_trans (hleast window hwindow hroom) hle

theorem findsLeast_some_iff {starts : Set Time} {start : Time} :
    FindsLeast (some start) starts ↔ IsLeast starts start := by
  constructor
  · exact fun h => (h.1 start).mp rfl
  · intro hleast
    refine ⟨fun other => ⟨?_, fun hother => congrArg some (hleast.unique hother)⟩, ?_⟩
    · rintro ⟨⟩
      exact hleast
    · refine iff_of_false (Option.some_ne_none start) fun hempty => ?_
      rw [hempty] at hleast
      exact absurd hleast.1 (Set.notMem_empty start)

theorem findsLeast_none_iff {starts : Set Time} : FindsLeast none starts ↔ starts = ∅ := by
  constructor
  · exact fun h => h.2.mp rfl
  · intro hempty
    refine ⟨fun start => iff_of_false (Option.some_ne_none start).symm fun hleast =>
      ?_, iff_of_true rfl hempty⟩
    rw [hempty] at hleast
    exact absurd hleast.1 (Set.notMem_empty start)

end Accepted

section Search

variable (order : WindowSort) {actor : Actor}

theorem head?_le_of_sorted {windows : List AvailabilityWindow}
    (hsorted : windows.Pairwise fun v w => v.start ≤ w.start) {first : AvailabilityWindow}
    (hfirst : first ∈ windows.head?) : ∀ window ∈ windows, first.start ≤ window.start := by
  cases windows with
  | nil => nomatch hfirst
  | cons v rest =>
    obtain rfl := Option.some.inj hfirst
    intro window hwindow
    rcases List.mem_cons.mp hwindow with rfl | hrest
    · exact le_refl _
    · exact List.rel_of_pairwise_cons hsorted hrest

theorem findsLeast_nextAvailableStart_iff (hload : actor.currentLoad < actor.capacity)
    {duration : Duration} (hduration : 0 < duration) (t : Time) :
    FindsLeast (nextAvailableStart order actor t duration) (acceptedStarts actor t duration) ↔
      ReachesEarliest duration t (order.sort actor.availabilityWindows) := by
  have hmem : ∀ window, window ∈ order.sort actor.availabilityWindows ↔
      window ∈ actor.availabilityWindows :=
    fun window => (order.perm _).mem_iff
  have hsorted := order.sorted actor.availabilityWindows
  have hsearch : nextAvailableStart order actor t duration =
      startInWindows duration t (order.sort actor.availabilityWindows) := if_neg (not_le.mpr hload)
  rw [hsearch]
  by_cases hfirst : ∃ first ∈ (order.sort actor.availabilityWindows).head?, HasRoom duration t first
  · refine iff_of_true ?_ (Or.inl hfirst)
    obtain ⟨first, hhead, hroom⟩ := hfirst
    obtain ⟨rest, hsort⟩ := List.head?_eq_some_iff.mp hhead
    rw [hsort, startInWindows_of_room hroom, findsLeast_some_iff,
      isLeast_acceptedStarts_iff hload hduration]
    refine ⟨mem_acceptedStarts_of_room hload hduration
      ((hmem first).mp (List.mem_of_mem_head? hhead)) hroom, ?_⟩
    intro window hwindow _
    exact max_le_max (le_refl t)
      (head?_le_of_sorted hsorted hhead window ((hmem window).mpr hwindow))
  · have hnot : ∀ first ∈ (order.sort actor.availabilityWindows).head?, ¬HasRoom duration t first :=
      fun first hhead hroom => hfirst ⟨first, hhead, hroom⟩
    by_cases hhandover : ∃ v w, FirstHandover duration (order.sort actor.availabilityWindows) v w
    · obtain ⟨v, w, hvw⟩ := hhandover
      obtain ⟨hw, hroom⟩ := mem_of_firstHandover hvw
      have hstart := startInWindows_of_handover hvw hnot
      have haccepted : max v.stop w.start ∈ acceptedStarts actor t duration ↔
          t ≤ v.stop ∨ t ≤ w.start := by
        rw [mem_acceptedStarts_iff hload hduration, le_max_iff]
        exact and_iff_left ⟨w, (hmem w).mp hw, le_max_right _ _, hroom⟩
      rw [hstart, findsLeast_some_iff, isLeast_acceptedStarts_iff hload hduration, haccepted]
      constructor
      · rintro ⟨hafter, hleast⟩
        exact Or.inr (Or.inl ⟨v, w, hvw, hafter, fun window hwindow =>
          hleast window ((hmem window).mp hwindow)⟩)
      · rintro (hroom | ⟨x, y, hxy, hafter, hleast⟩ | ⟨hno, -⟩)
        · exact absurd hroom hfirst
        · have hsame := hstart.symm.trans (startInWindows_of_handover hxy hnot)
          rw [← le_max_iff, Option.some.inj hsame, le_max_iff]
          exact ⟨hafter, fun window hwindow => hleast window ((hmem window).mpr hwindow)⟩
        · exact absurd ⟨v, w, hvw⟩ hno
    · rw [startInWindows_of_no_handover hhandover hnot, findsLeast_none_iff,
        acceptedStarts_eq_empty_iff hload hduration]
      constructor
      · exact fun hnone =>
          Or.inr (Or.inr ⟨hhandover, fun window hwindow => hnone window ((hmem window).mp hwindow)⟩)
      · rintro (hroom | ⟨x, y, hxy, -⟩ | ⟨-, hnone⟩)
        · exact absurd hroom hfirst
        · exact absurd ⟨x, y, hxy⟩ hhandover
        · exact fun window hwindow => hnone window ((hmem window).mpr hwindow)

/-- A further window is of no use: it is empty or ends no later than the window before it. -/
def AddsNothing (before window : AvailabilityWindow) : Prop :=
  window.stop ≤ window.start ∨ window.stop ≤ before.stop

theorem not_hasRoom_of_addsNothing {v w : AvailabilityWindow} (h : AddsNothing v w)
    {duration : Duration} (hduration : 0 < duration) : ¬HasRoom duration v.stop w := by
  intro hroom
  have hends : max v.stop w.start < w.stop := lt_of_lt_of_le (lt_add_of_pos_right _ hduration) hroom
  rcases h with hempty | hearly
  · exact absurd (lt_of_le_of_lt (le_max_right _ _) hends) (not_lt.mpr hempty)
  · exact absurd (lt_of_le_of_lt (le_max_left _ _) hends) (not_lt.mpr hearly)

theorem no_handover_of_chain {windows : List AvailabilityWindow}
    (hchain : windows.IsChain AddsNothing) {duration : Duration} (hduration : 0 < duration) :
    ¬∃ v w, FirstHandover duration windows v w := by
  rintro ⟨v, w, hvw⟩
  induction hvw with
  | here hroom =>
    exact not_hasRoom_of_addsNothing (List.isChain_cons_cons.mp hchain).1 hduration hroom
  | later _ _ ih => exact ih (List.isChain_cons_cons.mp hchain).2

/-- The windows that are not empty lie in the first one. -/
theorem inside_first_of_chain {first : AvailabilityWindow} {rest : List AvailabilityWindow}
    (hchain : (first :: rest).IsChain AddsNothing)
    (hsorted : (first :: rest).Pairwise fun v w => v.start ≤ w.start) {window : AvailabilityWindow}
    (hwindow : window ∈ first :: rest) (hnonempty : window.start < window.stop) :
    first.start ≤ window.start ∧ window.stop ≤ first.stop := by
  refine ⟨head?_le_of_sorted hsorted rfl window hwindow, ?_⟩
  induction rest generalizing first with
  | nil =>
    obtain rfl := List.mem_singleton.mp hwindow
    exact le_refl _
  | cons second rest ih =>
    obtain ⟨hadds, hchain⟩ := List.isChain_cons_cons.mp hchain
    have hsorted := (List.pairwise_cons.mp hsorted).2
    rcases List.mem_cons.mp hwindow with rfl | hwindow
    · exact le_refl _
    · have hinside := ih hchain hsorted hwindow
      have hbegins := head?_le_of_sorted hsorted rfl window hwindow
      have hsecond : second.stop ≤ first.stop :=
        hadds.resolve_left (not_le.mpr (lt_of_le_of_lt hbegins (lt_of_lt_of_le hnonempty hinside)))
      exact le_trans hinside hsecond

theorem reachesEarliest_of_chain {windows : List AvailabilityWindow}
    (hchain : windows.IsChain AddsNothing) (hsorted : windows.Pairwise fun v w => v.start ≤ w.start)
    {duration : Duration} (hduration : 0 < duration) (t : Time) :
    ReachesEarliest duration t windows := by
  have hno := no_handover_of_chain hchain hduration
  cases windows with
  | nil => exact Or.inr (Or.inr ⟨hno, fun window hwindow => absurd hwindow List.not_mem_nil⟩)
  | cons first rest =>
    by_cases hroom : HasRoom duration t first
    · exact Or.inl ⟨first, rfl, hroom⟩
    · refine Or.inr (Or.inr ⟨hno, fun window hwindow hother => hroom ?_⟩)
      have hnonempty : window.start < window.stop :=
        lt_of_le_of_lt (le_max_right t _) (lt_of_lt_of_le (lt_add_of_pos_right _ hduration) hother)
      obtain ⟨hbegins, hends⟩ := inside_first_of_chain hchain hsorted hwindow hnonempty
      exact le_trans (Int.add_le_add_right (max_le_max (le_refl t) hbegins) duration)
        (le_trans hother hends)

/-- Where a further window is of use, it is found from the end of its predecessor on. -/
theorem handover_of_not_chain {windows : List AvailabilityWindow}
    (hchain : ¬windows.IsChain AddsNothing) :
    ∃ v w, FirstHandover 1 windows v w := by
  induction windows with
  | nil => exact absurd List.IsChain.nil hchain
  | cons v rest ih =>
    cases rest with
    | nil => exact absurd (List.IsChain.singleton v) hchain
    | cons w rest =>
      by_cases hroom : HasRoom 1 v.stop w
      · exact ⟨v, w, .here hroom⟩
      · have hadds : AddsNothing v w := by
          by_contra hnot
          rw [AddsNothing, not_or, not_le, not_le] at hnot
          exact hroom (Int.add_one_le_iff.mpr (max_lt hnot.2 hnot.1))
        have hrest : ¬(w :: rest).IsChain AddsNothing :=
          fun hrest => hchain (List.isChain_cons_cons.mpr ⟨hadds, hrest⟩)
        obtain ⟨x, y, hxy⟩ := ih hrest
        exact ⟨x, y, .later hroom hxy⟩

theorem exists_after_all (windows : List AvailabilityWindow) :
    ∃ t : Time, ∀ window ∈ windows, window.stop ≤ t := by
  induction windows with
  | nil => exact ⟨0, fun window hwindow => absurd hwindow List.not_mem_nil⟩
  | cons first rest ih =>
    obtain ⟨t, ht⟩ := ih
    exact ⟨max first.stop t, List.forall_mem_cons.mpr
      ⟨le_max_left _ _, fun window hwindow => le_trans (ht window hwindow) (le_max_right _ _)⟩⟩

theorem not_reachesEarliest_after_all {windows : List AvailabilityWindow} {v w : AvailabilityWindow}
    (hvw : FirstHandover 1 windows v w) {t : Time} (ht : ∀ window ∈ windows, window.stop ≤ t) :
    ¬ReachesEarliest 1 t windows := by
  have hnone : ∀ window ∈ windows, ¬HasRoom 1 t window := by
    intro window hwindow hroom
    exact absurd (le_trans (Int.add_le_add_right (le_max_left t window.start) 1)
      (le_trans hroom (ht window hwindow))) (not_le.mpr (Int.lt_succ t))
  rintro (⟨first, hfirst, hroom⟩ | ⟨x, y, hxy, hafter, -⟩ | ⟨hno, -⟩)
  · exact hnone first (List.mem_of_mem_head? hfirst) hroom
  · obtain ⟨hy, hroom⟩ := mem_of_firstHandover hxy
    have hle : t ≤ max x.stop y.start := le_max_iff.mpr hafter
    apply hnone y hy
    exact le_trans (Int.add_le_add_right (max_le hle (le_max_right _ _)) 1) hroom
  · exact hno ⟨v, w, hvw⟩

/-- The search finds the least accepted start exactly where it reaches it before it falls back; it
does so for every time and duration if and only if every window after the first adds nothing. -/
theorem nextAvailableStart_least_iff (actor : Actor) (hload : actor.currentLoad < actor.capacity) :
    (∀ t duration, 0 < duration →
      (FindsLeast (nextAvailableStart order actor t duration) (acceptedStarts actor t duration) ↔
        ReachesEarliest duration t (order.sort actor.availabilityWindows))) ∧
      ((∀ t duration, 0 < duration →
        FindsLeast (nextAvailableStart order actor t duration) (acceptedStarts actor t duration)) ↔
          (order.sort actor.availabilityWindows).IsChain AddsNothing) := by
  have heach : ∀ t duration, 0 < duration →
      (FindsLeast (nextAvailableStart order actor t duration) (acceptedStarts actor t duration) ↔
        ReachesEarliest duration t (order.sort actor.availabilityWindows)) :=
    fun t _ hduration => findsLeast_nextAvailableStart_iff order hload hduration t
  refine ⟨heach, fun hleast => ?_, fun hchain t duration hduration => ?_⟩
  · by_contra hchain
    obtain ⟨v, w, hvw⟩ := handover_of_not_chain hchain
    obtain ⟨t, ht⟩ := exists_after_all (order.sort actor.availabilityWindows)
    exact not_reachesEarliest_after_all hvw ht ((heach t 1 one_pos).mp (hleast t 1 one_pos))
  · exact (heach t duration hduration).mpr
      (reachesEarliest_of_chain hchain (order.sorted _) hduration t)

end Search

def stableSort : WindowSort where
  sort := sortBy fun v w => decide (v.start < w.start)
  perm := perm_sortBy _
  sorted := pairwise_sortBy_start

def twoShifts : Actor where
  id := "x"
  availabilityWindows := [{ start := 0, stop := 10 }, { start := 20, stop := 60 }]

theorem twoShifts_from_first :
    FindsLeast (nextAvailableStart stableSort twoShifts 3 5) (acceptedStarts twoShifts 3 5) ∧
      nextAvailableStart stableSort twoShifts 3 5 = some 3 := by
  refine ⟨((nextAvailableStart_least_iff stableSort twoShifts (by decide)).1 3 5 (by decide)).mpr
    ?_, by decide⟩
  exact Or.inl ⟨{ start := 0, stop := 10 }, by decide, show max (3 : Int) 0 + 5 ≤ 10 by decide⟩

/-- After both shifts the search answers with the begin of the second one. -/
theorem twoShifts_in_the_past :
    nextAvailableStart stableSort twoShifts 70 5 = some 20 ∧
      ¬FindsLeast (nextAvailableStart stableSort twoShifts 70 5)
      (acceptedStarts twoShifts 70 5) := by
  have hstart : nextAvailableStart stableSort twoShifts 70 5 = some 20 := by decide
  refine ⟨hstart, fun hleast => ?_⟩
  rw [hstart, findsLeast_some_iff] at hleast
  have hafter : (70 : Int) ≤ 20 := hleast.1.1
  exact absurd hafter (by decide)

end TaskOrchestrator.Core
