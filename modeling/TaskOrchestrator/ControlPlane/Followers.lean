import TaskOrchestrator.ControlPlane.UpdateFeed
import TaskOrchestrator.Library.Machine
import Mathlib.Logic.Function.Basic
import Mathlib.Data.List.Basic

/-!
# Followers of the update feed

Publishers, followers and `shutdown` on one feed. Each step is what happens under the feed's mutex:
a call of `wait_for_update` is entered, and while it waits it is woken or runs out of time, each of
which tests the predicate again. A follower passes the id that it received last, as the stream of
the dashboard does. Event ids are not bounded.
-/

namespace TaskOrchestrator.ControlPlane

open Library

set_option autoImplicit false

/-- `make_in_memory_workflow_update_feed`. -/
def makeInMemoryWorkflowUpdateFeed (retainedEvents : Nat) : UpdateFeed :=
  { retainedEvents := max 1 retainedEvents }

/-- `cursor` is the id to pass next, and there is none before the follower asks for the latest. -/
structure Follower where
  cursor : Option Nat := none
  waiting : Bool := false
  received : List WorkflowUpdateEvent := []

def Follower.after (follower : Follower) : Nat := follower.cursor.getD 0

/-- The feed with all events published so far and the followers by number. -/
structure Following where
  feed : UpdateFeed
  shuttingDown : Bool := false
  published : List WorkflowUpdateEvent := []
  followers : Nat → Follower := fun _ => {}

namespace Following

inductive Action where
  | publish (workflowId : WorkflowId)
  | latestEventId (follower : Nat)
  | waitForUpdate (follower : Nat)
  | wake (follower : Nat)
  | timeout (follower : Nat)
  | shutdown

def ready (s : Following) (after : Nat) : Bool :=
  s.shuttingDown || decide (after < s.feed.latestEventId)

/-- What a call returns once it does not wait. -/
def newerEvent (s : Following) (after : Nat) : Option WorkflowUpdateEvent :=
  if s.shuttingDown then none else s.feed.events.find? fun event => after < event.eventId

def returned (s : Following) : Action → Option (Nat × Option WorkflowUpdateEvent)
  | .waitForUpdate i =>
    if s.ready (s.followers i).after then some (i, s.newerEvent (s.followers i).after) else none
  | .wake i =>
    if s.ready (s.followers i).after then some (i, s.newerEvent (s.followers i).after) else none
  | .timeout i => some (i, if s.ready (s.followers i).after then s.newerEvent (s.followers i).after
    else none)
  | _ => none

def Follower.receive (follower : Follower) : Option WorkflowUpdateEvent → Follower
  | none => { follower with waiting := false }
  | some event =>
    { cursor := some event.eventId, waiting := false, received := follower.received ++ [event] }

def setFollower (s : Following) (i : Nat) (follower : Follower) : Following :=
  { s with followers := Function.update s.followers i follower }

def step (s : Following) (action : Action) : Following :=
  match action with
  | .publish workflowId =>
    { s with
      feed := s.feed.publish workflowId
      published :=
        s.published ++ [{ eventId := s.feed.latestEventId + 1, workflowId := workflowId }] }
  | .latestEventId i => s.setFollower i { s.followers i with cursor := some s.feed.latestEventId }
  | .shutdown => { s with shuttingDown := true }
  | .waitForUpdate i | .wake i | .timeout i =>
    match s.returned action with
    | some (_, result) => s.setFollower i (Follower.receive (s.followers i) result)
    | none => s.setFollower i { s.followers i with waiting := true }

/-- A follower first asks for the latest id and then makes one call after another. -/
def Possible (s : Following) : Action → Prop
  | .latestEventId i => (s.followers i).cursor = none
  | .waitForUpdate i => (s.followers i).cursor ≠ none ∧ (s.followers i).waiting = false
  | .wake i => (s.followers i).waiting = true
  | .timeout i => (s.followers i).waiting = true
  | _ => True

instance (s : Following) : (action : Action) → Decidable (s.Possible action)
  | .publish _ => isTrue trivial
  | .latestEventId i => inferInstanceAs (Decidable ((s.followers i).cursor = none))
  | .waitForUpdate i =>
    inferInstanceAs (Decidable ((s.followers i).cursor ≠ none ∧ (s.followers i).waiting = false))
  | .wake i => inferInstanceAs (Decidable ((s.followers i).waiting = true))
  | .timeout i => inferInstanceAs (Decidable ((s.followers i).waiting = true))
  | .shutdown => isTrue trivial

def initial (retainedEvents : Nat) : Following :=
  { feed := makeInMemoryWorkflowUpdateFeed retainedEvents }

def after (retainedEvents : Nat) (actions : List Action) : Following :=
  runMachine step (initial retainedEvents) actions

def Action.workflowId : Action → Option WorkflowId
  | .publish workflowId => some workflowId
  | _ => none

def answer (s : Following) (action : Action) (i : Nat) : Option WorkflowUpdateEvent :=
  (s.returned action).bind fun (caller, result) => if caller = i then result else none

/-- The events that the calls of the follower return, one after another. -/
def answers (i : Nat) : Following → List Action → List WorkflowUpdateEvent
  | _, [] => []
  | s, action :: rest => (s.answer action i).toList ++ answers i (s.step action) rest

structure InOrder (retainedEvents : Nat) (actions : List Action) : Prop where
  /-- The ids that were published, in the order of the calls. -/
  published : (after retainedEvents actions).published.map WorkflowUpdateEvent.workflowId =
    actions.filterMap Action.workflowId
  consecutive : (after retainedEvents actions).published.map WorkflowUpdateEvent.eventId =
    List.range' 1 (after retainedEvents actions).published.length
  /-- The deque holds the last events that were published. -/
  retained : ∃ evicted,
    (after retainedEvents actions).published = evicted ++
      (after retainedEvents actions).feed.events ∧
      (after retainedEvents actions).feed.events.length =
        min (after retainedEvents actions).published.length (max 1 retainedEvents)
  increasing : ∀ i, (answers i (initial retainedEvents) actions).Pairwise fun first second =>
    first.eventId < second.eventId
  /-- A follower passes the id that it received last. -/
  cursor : ∀ i, ∀ event ∈ (answers i (initial retainedEvents) actions).getLast?,
    ((after retainedEvents actions).followers i).cursor = some event.eventId
  /-- A step returns the oldest newer event, and what it skips has been evicted. -/
  oldest : ∀ action i event, (after retainedEvents actions).Possible action →
    (after retainedEvents actions).returned action = some (i, some event) →
    event ∈ (after retainedEvents actions).feed.events ∧
      ((after retainedEvents actions).followers i).after < event.eventId ∧
      ∀ skipped ∈ (after retainedEvents actions).published,
        ((after retainedEvents actions).followers i).after < skipped.eventId →
        skipped.eventId < event.eventId →
          skipped ∉ (after retainedEvents actions).feed.events
  prompt : .shutdown ∉ actions → ∀ i, (after retainedEvents actions).Possible (.waitForUpdate i) →
    (∃ newer ∈ (after retainedEvents actions).published,
      ((after retainedEvents actions).followers i).after < newer.eventId) →
    ∃ event, (after retainedEvents actions).returned (.waitForUpdate i) = some (i, some event)
  closed : .shutdown ∈ actions → ∀ action i event,
    (after retainedEvents actions).returned action ≠ some (i, some event)

/-- The counter, the window and every follower's cursor fit together. -/
structure Consistent (retainedEvents : Nat) (s : Following) : Prop where
  size : s.feed.retainedEvents = max 1 retainedEvents
  latest : s.feed.latestEventId = s.published.length
  consecutive : s.published.map WorkflowUpdateEvent.eventId = List.range' 1 s.published.length
  window : s.feed.events = s.published.drop (s.published.length - s.feed.retainedEvents)
  increasing : ∀ i, (s.followers i).received.Pairwise fun first second =>
    first.eventId < second.eventId
  behind : ∀ i, ∀ event ∈ (s.followers i).received, event.eventId ≤ (s.followers i).after
  current : ∀ i, ∀ event ∈ (s.followers i).received.getLast?, (s.followers i).cursor =
    some event.eventId

variable {retainedEvents : Nat} {s : Following}

theorem initial_consistent (retainedEvents : Nat) :
    (initial retainedEvents).Consistent retainedEvents where
  size := rfl
  latest := rfl
  consecutive := rfl
  window := by simp [initial, makeInMemoryWorkflowUpdateFeed]
  increasing _ := List.Pairwise.nil
  behind _ _ hevent := absurd hevent List.not_mem_nil
  current _ _ hevent := absurd hevent (by simp [initial])

/-- An event is added to the window and the oldest ones that are too many are taken off. -/
theorem window_append (published : List WorkflowUpdateEvent) (retained : Nat)
    (event : WorkflowUpdateEvent) :
    (published.drop (published.length - retained) ++ [event]).drop
        ((published.drop (published.length - retained) ++ [event]).length - retained) =
      (published ++ [event]).drop (published.length + 1 - retained) := by
  rw [← List.drop_append_of_le_length (Nat.sub_le _ _), List.drop_drop]
  congr 1
  simp only [List.length_drop, List.length_append, List.length_singleton]
  omega

theorem publish_consistent (h : s.Consistent retainedEvents) (workflowId : WorkflowId) :
    (s.step (.publish workflowId)).Consistent retainedEvents where
  size := h.size
  latest := by
    simp only [step, UpdateFeed.publish, List.length_append, List.length_singleton, h.latest]
  consecutive := by
    simp only [step, List.map_append, h.consecutive, List.length_append, List.length_singleton,
      List.range'_concat, List.map_cons, List.map_nil, h.latest]
    simp [Nat.add_comm]
  window := by
    have hwindow := window_append s.published s.feed.retainedEvents
      { eventId := s.feed.latestEventId + 1, workflowId := workflowId }
    simp only [step, UpdateFeed.publish, List.length_append, List.length_singleton, h.window]
      at hwindow ⊢
    exact hwindow
  increasing := h.increasing
  behind := h.behind
  current := h.current

theorem setFollower_consistent (h : s.Consistent retainedEvents) (i : Nat) {follower : Follower}
    (hincreasing : follower.received.Pairwise fun first second => first.eventId < second.eventId)
    (hbehind : ∀ event ∈ follower.received, event.eventId ≤ follower.after)
    (hcurrent : ∀ event ∈ follower.received.getLast?, follower.cursor = some event.eventId) :
    (s.setFollower i follower).Consistent retainedEvents where
  size := h.size
  latest := h.latest
  consecutive := h.consecutive
  window := h.window
  increasing j := by
    by_cases hj : j = i
    · simpa [setFollower, hj] using hincreasing
    · simpa [setFollower, hj] using h.increasing j
  behind j := by
    by_cases hj : j = i
    · simpa [setFollower, hj] using hbehind
    · simpa [setFollower, hj] using h.behind j
  current j := by
    by_cases hj : j = i
    · simpa [setFollower, hj] using hcurrent
    · simpa [setFollower, hj] using h.current j

theorem after_lt_of_newerEvent {after : Nat} {event : WorkflowUpdateEvent}
    (h : s.newerEvent after = some event) :
    s.shuttingDown = false ∧ event ∈ s.feed.events ∧ after < event.eventId := by
  unfold newerEvent at h
  split_ifs at h with hdown
  exact ⟨Bool.eq_false_iff.mpr hdown, List.mem_of_find?_eq_some h, by simpa using List.find?_some h⟩

theorem receive_consistent (h : s.Consistent retainedEvents) (i : Nat)
    {result : Option WorkflowUpdateEvent}
    (hresult : ∀ event ∈ result, (s.followers i).after < event.eventId) :
    (s.setFollower i (Follower.receive (s.followers i) result)).Consistent retainedEvents := by
  cases result with
  | none => exact setFollower_consistent h i (h.increasing i) (h.behind i) (h.current i)
  | some event =>
    have hnewer : (s.followers i).after < event.eventId := hresult event rfl
    have hbehind : ∀ old ∈ (s.followers i).received, old.eventId < event.eventId :=
      fun old hold => Nat.lt_of_le_of_lt (h.behind i old hold) hnewer
    apply setFollower_consistent h i
    · simp only [Follower.receive, List.pairwise_append]
      refine ⟨h.increasing i, List.pairwise_singleton _ _, ?_⟩
      intro old hold new hnew
      rw [List.mem_singleton.mp hnew]
      exact hbehind old hold
    · intro old hold
      rcases List.mem_append.mp hold with hold | hold
      · exact Nat.le_of_lt (hbehind old hold)
      · rw [List.mem_singleton.mp hold]
        exact Nat.le_refl _
    · intro last hlast
      rw [Follower.receive, List.getLast?_concat, Option.mem_some_iff] at hlast
      rw [Follower.receive, hlast]

/-- The step of a follower's call returns what the feed has after its cursor. -/
theorem newerEvent_of_returned {action : Action} {i : Nat} {event : WorkflowUpdateEvent}
    (h : s.returned action = some (i, some event)) :
    s.newerEvent (s.followers i).after = some event := by
  cases action with
  | waitForUpdate j | wake j =>
    simp only [returned] at h
    split_ifs at h
    obtain ⟨rfl, hresult⟩ := Prod.mk.inj (Option.some.inj h)
    exact hresult
  | timeout j =>
    obtain ⟨rfl, hresult⟩ := Prod.mk.inj (Option.some.inj h)
    split_ifs at hresult
    exact hresult
  | publish _ | latestEventId _ | shutdown => exact absurd h (by simp [returned])

theorem call_consistent (h : s.Consistent retainedEvents) {action : Action} (i : Nat)
    (haction : action = .waitForUpdate i ∨ action = .wake i ∨ action = .timeout i) :
    (s.step action).Consistent retainedEvents := by
  have hstep : s.step action = match s.returned action with
      | some (_, result) => s.setFollower i (Follower.receive (s.followers i) result)
      | none => s.setFollower i { s.followers i with waiting := true } := by
    rcases haction with rfl | rfl | rfl <;> rfl
  have hcaller : ∀ j result, s.returned action = some (j, result) → j = i := by
    intro j result hreturned
    rcases haction with rfl | rfl | rfl
    · simp only [returned] at hreturned
      split_ifs at hreturned
      exact (Prod.mk.inj (Option.some.inj hreturned)).1.symm
    · simp only [returned] at hreturned
      split_ifs at hreturned
      exact (Prod.mk.inj (Option.some.inj hreturned)).1.symm
    · exact (Prod.mk.inj (Option.some.inj hreturned)).1.symm
  rw [hstep]
  cases hreturned : s.returned action with
  | none => exact setFollower_consistent h i (h.increasing i) (h.behind i) (h.current i)
  | some answer =>
    obtain ⟨j, result⟩ := answer
    obtain rfl := hcaller j result hreturned
    apply receive_consistent h j
    rintro event rfl
    exact (after_lt_of_newerEvent (newerEvent_of_returned hreturned)).2.2

theorem step_consistent (h : s.Consistent retainedEvents) {action : Action}
    (hpossible : s.Possible action) :
    (s.step action).Consistent retainedEvents := by
  cases action with
  | publish workflowId => exact publish_consistent h workflowId
  | shutdown => exact ⟨h.size, h.latest, h.consecutive, h.window, h.increasing, h.behind, h.current⟩
  | latestEventId i =>
    have hnone : (s.followers i).after = 0 := by rw [Follower.after, hpossible]; rfl
    have hbehind : ∀ event ∈ (s.followers i).received, event.eventId ≤ s.feed.latestEventId := by
      intro event hevent
      have hzero := h.behind i event hevent
      omega
    refine setFollower_consistent h i (h.increasing i) hbehind fun event hevent => ?_
    exact absurd ((h.current i event hevent).symm.trans hpossible) (by simp)
  | waitForUpdate i => exact call_consistent h i (Or.inl rfl)
  | wake i => exact call_consistent h i (Or.inr (Or.inl rfl))
  | timeout i => exact call_consistent h i (Or.inr (Or.inr rfl))

namespace Consistent

theorem published_sorted (h : s.Consistent retainedEvents) :
    s.published.Pairwise fun first second => first.eventId < second.eventId := by
  have hrange : (s.published.map WorkflowUpdateEvent.eventId).Pairwise (· < ·) := by
    rw [h.consecutive]
    exact List.pairwise_lt_range'
  exact List.pairwise_map.mp hrange

/-- The first retained event after a cursor is older than all others after it. -/
theorem oldest (h : s.Consistent retainedEvents) {after : Nat} {event : WorkflowUpdateEvent}
    (hnewer : s.newerEvent after = some event) :
    ∀ other ∈ s.feed.events, after < other.eventId → event.eventId ≤ other.eventId := by
  have hsorted : s.feed.events.Pairwise fun first second => first.eventId < second.eventId := by
    rw [h.window]
    exact h.published_sorted.sublist (List.drop_sublist _ _)
  unfold newerEvent at hnewer
  split_ifs at hnewer
  obtain ⟨-, before, rest, hevents, hbefore⟩ := List.find?_eq_some_iff_append.mp hnewer
  rw [hevents] at hsorted
  intro other hother hlater
  rw [hevents] at hother
  rcases List.mem_append.mp hother with hother | hother
  · have hnot := hbefore other hother
    simp only [Bool.not_eq_true', decide_eq_false_iff_not] at hnot
    exact absurd hlater hnot
  · rcases List.mem_cons.mp hother with rfl | hother
    · exact Nat.le_refl _
    · have htail := (List.pairwise_append.mp hsorted).2.1
      exact Nat.le_of_lt (List.rel_of_pairwise_cons htail hother)

theorem eventId_of_getElem (h : s.Consistent retainedEvents) (n : Nat)
    (hn : n < s.published.length) :
    s.published[n].eventId = n + 1 := by
  have hmap : (s.published.map WorkflowUpdateEvent.eventId)[n]? =
      (List.range' 1 s.published.length)[n]? := by
    rw [h.consecutive]
  rw [List.getElem?_map, List.getElem?_eq_getElem hn, List.getElem?_range' hn] at hmap
  have heq := Option.some.inj hmap
  omega

theorem eventId_le_length (h : s.Consistent retainedEvents) {event : WorkflowUpdateEvent}
    (hevent : event ∈ s.published) :
    event.eventId ≤ s.published.length := by
  obtain ⟨n, hn, rfl⟩ := List.mem_iff_getElem.mp hevent
  rw [h.eventId_of_getElem n hn]
  exact hn

theorem newerEvent_isSome (h : s.Consistent retainedEvents) {after : Nat}
    (hrunning : s.shuttingDown = false) (hnewer : after < s.published.length) :
    ∃ event, s.newerEvent after = some event := by
  have hn : s.published.length - 1 < s.published.length := by omega
  have hlast : s.published[s.published.length - 1] ∈ s.feed.events := by
    have hsize := h.size
    rw [h.window, List.mem_drop_iff_getElem]
    refine ⟨s.published.length - 1 - (s.published.length - s.feed.retainedEvents), ?_, ?_⟩
    · omega
    · congr 1
      omega
  have hnewest : after < s.published[s.published.length - 1].eventId := by
    rw [h.eventId_of_getElem _ hn]
    omega
  rw [← Option.isSome_iff_exists, newerEvent, if_neg (by simp [hrunning]), List.find?_isSome]
  exact ⟨_, hlast, by simpa using hnewest⟩

end Consistent

theorem shuttingDown_run (s : Following) (actions : List Action) :
    (runMachine step s actions).shuttingDown = true ↔ s.shuttingDown = true ∨
    .shutdown ∈ actions := by
  induction actions generalizing s with
  | nil => simp
  | cons action rest ih =>
    rw [runMachine_cons, ih, List.mem_cons, ← or_assoc]
    refine or_congr_left ?_
    cases action with
    | shutdown => simp [step]
    | publish _ | latestEventId _ => simp [step, setFollower]
    | waitForUpdate i | wake i | timeout i =>
      simp only [step, reduceCtorEq, or_false]
      split <;> exact Iff.rfl

theorem published_run (s : Following) (actions : List Action) :
    (runMachine step s actions).published.map WorkflowUpdateEvent.workflowId =
      s.published.map WorkflowUpdateEvent.workflowId ++ actions.filterMap Action.workflowId := by
  induction actions generalizing s with
  | nil => simp
  | cons action rest ih =>
    rw [runMachine_cons, ih]
    cases action with
    | publish workflowId => simp [step, Action.workflowId]
    | shutdown | latestEventId _ => simp [step, setFollower, Action.workflowId, List.filterMap_cons]
    | waitForUpdate i | wake i | timeout i =>
      rw [List.filterMap_cons_none rfl]
      simp only [step]
      split <;> rfl

theorem received_step (s : Following) (action : Action) (i : Nat) :
    ((s.step action).followers i).received = (s.followers i).received ++
      (s.answer action i).toList := by
  cases action with
  | publish _ | shutdown => simp [step, answer, returned]
  | latestEventId j =>
    by_cases hj : i = j
    · simp [step, answer, returned, setFollower, hj]
    · simp [step, answer, returned, setFollower, hj]
  | waitForUpdate j | wake j | timeout j =>
    simp only [step, answer]
    cases hreturned : s.returned _ with
    | none =>
      by_cases hj : i = j
      · simp [setFollower, hj]
      · simp [setFollower, hj]
    | some pair =>
      obtain ⟨caller, result⟩ := pair
      obtain rfl : caller = j := by
        simp only [returned] at hreturned
        split_ifs at hreturned
        all_goals exact (Prod.mk.inj (Option.some.inj hreturned)).1.symm
      by_cases hj : i = caller
      · cases result <;> simp [setFollower, hj, Follower.receive]
      · simp [setFollower, hj, Ne.symm hj]

theorem received_run (s : Following) (actions : List Action) (i : Nat) :
    ((runMachine step s actions).followers i).received = (s.followers i).received ++
      answers i s actions := by
  induction actions generalizing s with
  | nil => simp [answers]
  | cons action rest ih => rw [runMachine_cons, ih, received_step, answers, List.append_assoc]

/-- However publishers, followers and `shutdown` interleave, the followers get the updates in order
and miss only what was evicted before they came back. -/
theorem followers_in_order (retainedEvents : Nat) (actions : List Action)
    (hrun : Meets step Possible (initial retainedEvents) actions) :
    InOrder retainedEvents actions := by
  have h : (after retainedEvents actions).Consistent retainedEvents :=
    hrun.invariant (initial_consistent retainedEvents) fun _ _ h hpossible =>
      step_consistent h hpossible
  have hdown := shuttingDown_run (initial retainedEvents) actions
  have hreceived : ∀ i, ((after retainedEvents actions).followers i).received =
      answers i (initial retainedEvents) actions := received_run (initial retainedEvents) actions
  exact {
    published := published_run (initial retainedEvents) actions
    consecutive := h.consecutive
    retained := by
      refine ⟨(after retainedEvents actions).published.take
        ((after retainedEvents actions).published.length -
          (after retainedEvents actions).feed.retainedEvents), ?_, ?_⟩
      · rw [h.window, List.take_append_drop]
      · rw [h.window, List.length_drop, h.size]
        omega
    increasing := fun i => hreceived i ▸ h.increasing i
    cursor := fun i event hevent => h.current i event (hreceived i ▸ hevent)
    oldest := by
      intro action i event _ hreturned
      have hnewer := newerEvent_of_returned hreturned
      obtain ⟨-, hmem, hafter⟩ := after_lt_of_newerEvent hnewer
      refine ⟨hmem, hafter, ?_⟩
      intro skipped _ hlater hearlier hretained
      have holdest := h.oldest hnewer skipped hretained hlater
      omega
    prompt := by
      rintro hnever i - ⟨newer, hmem, hlater⟩
      have hrunning : (after retainedEvents actions).shuttingDown = false := by
        refine Bool.eq_false_iff.mpr fun hshuttingDown => ?_
        rcases hdown.mp hshuttingDown with hinitial | hmember
        · exact Bool.noConfusion hinitial
        · exact hnever hmember
      have hafter := Nat.lt_of_lt_of_le hlater (h.eventId_le_length hmem)
      have hready : (after retainedEvents actions).ready
          ((after retainedEvents actions).followers i).after = true := by
        simp [ready, h.latest, hafter]
      obtain ⟨event, hevent⟩ := h.newerEvent_isSome hrunning hafter
      refine ⟨event, ?_⟩
      rw [returned, if_pos hready, hevent]
    closed := by
      intro hmember action i event hreturned
      have hshuttingDown := hdown.mpr (Or.inr hmember)
      have hrunning := (after_lt_of_newerEvent (newerEvent_of_returned hreturned)).1
      exact Bool.noConfusion (hshuttingDown.symm.trans hrunning) }

def twoFollowers : List Action :=
  [.latestEventId 0, .latestEventId 1, .waitForUpdate 0, .publish "a", .wake 0, .publish "b",
    .publish "c", .waitForUpdate 1, .waitForUpdate 1, .shutdown, .waitForUpdate 0]

theorem twoFollowers_in_order :
    answers 1 (initial 2) twoFollowers = [⟨2, "b"⟩, ⟨3, "c"⟩] ∧ InOrder 2 twoFollowers :=
  ⟨by decide, followers_in_order 2 twoFollowers (by decide)⟩

end Following

end TaskOrchestrator.ControlPlane
