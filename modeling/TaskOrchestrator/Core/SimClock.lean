import Mathlib.Data.Prod.Lex
import TaskOrchestrator.Core.Workflow
import TaskOrchestrator.Library.Machine

/-!
# The simulation clock

An event in the past is clamped to the current time when it is scheduled, but `set_time` may pass
events that are already pending. `advance_to_next` then moves the clock back to such an event, and
`run_until` with a limit before the current time returns at once and leaves it pending.
-/

namespace TaskOrchestrator.Core

open Library

set_option autoImplicit false

variable {κ σ : Type}

structure Event (κ : Type) where
  time : Time
  seq : Nat
  callback : Option κ

/-- The comparison of the queue: by time, and by insertion for the same time. -/
def Event.after (e f : Event κ) : Bool := if e.time ≠ f.time then e.time > f.time else e.seq > f.seq

def Event.due (e : Event κ) : Time ×ₗ Nat := toLex (e.time, e.seq)

theorem Event.not_after_iff {e f : Event κ} : ¬e.after f = true ↔ e.due ≤ f.due := by
  rw [Event.due, Event.due, Prod.Lex.toLex_le_toLex, Event.after]
  split
  · rename_i htime
    rw [decide_eq_true_iff, gt_iff_lt, not_lt]
    exact ⟨fun hle => Or.inl (lt_of_le_of_ne hle htime), fun h => h.elim le_of_lt fun h =>
      le_of_eq h.1⟩
  · rename_i htime
    have htime : e.time = f.time := not_not.mp htime
    simp [htime]

theorem Event.time_le {e f : Event κ} (h : e.due ≤ f.due) : e.time ≤ f.time := by
  rcases Prod.Lex.toLex_le_toLex.mp h with hlt | ⟨heq, -⟩
  · exact hlt.le
  · exact heq.le

/-- The queue hands out its events in the order of the comparison. -/
structure EventQueue (κ : Type) where
  events : List (Event κ)
  ordered : events.Pairwise fun e f => ¬e.after f = true

def insertEvent (event : Event κ) : List (Event κ) → List (Event κ)
  | [] => [event]
  | top :: rest => if top.after event then event :: top :: rest else top :: insertEvent event rest

theorem insertEvent_perm (event : Event κ) (events : List (Event κ)) :
    (insertEvent event events).Perm (event :: events) := by
  induction events with
  | nil => exact .refl _
  | cons top rest ih =>
    rw [insertEvent]
    split
    · exact .refl _
    · exact (ih.cons top).trans (.swap event top rest)

theorem insertEvent_ordered {event : Event κ} {events : List (Event κ)}
    (h : events.Pairwise fun e f => ¬e.after f = true) :
    (insertEvent event events).Pairwise fun e f => ¬e.after f = true := by
  induction events with
  | nil => exact List.pairwise_singleton _ _
  | cons top rest ih =>
    obtain ⟨htop, hrest⟩ := List.pairwise_cons.mp h
    rw [insertEvent]
    split
    · rename_i hafter
      have hle : event.due ≤ top.due := le_of_not_ge fun hle => Event.not_after_iff.mpr hle hafter
      refine List.pairwise_cons.mpr ⟨fun f hf => Event.not_after_iff.mpr ?_, h⟩
      rcases List.mem_cons.mp hf with rfl | hf
      · exact hle
      · exact hle.trans (Event.not_after_iff.mp (htop f hf))
    · rename_i hafter
      refine List.pairwise_cons.mpr ⟨fun f hf => ?_, ih hrest⟩
      rcases List.mem_cons.mp ((insertEvent_perm event rest).mem_iff.mp hf) with rfl | hf
      · exact hafter
      · exact htop f hf

def EventQueue.empty : EventQueue κ := ⟨[], List.Pairwise.nil⟩

def EventQueue.push (queue : EventQueue κ) (event : Event κ) : EventQueue κ :=
  ⟨insertEvent event queue.events, insertEvent_ordered queue.ordered⟩

def EventQueue.pop (queue : EventQueue κ) : EventQueue κ := ⟨queue.events.tail, queue.ordered.tail⟩

structure SimClock (κ : Type) where
  now : Time := 0
  nextSeq : Nat := 0
  queue : EventQueue κ := .empty

def SimClock.scheduleAt (clock : SimClock κ) (t : Time) (callback : Option κ) : SimClock κ :=
  { clock with
    queue := clock.queue.push { time := max t clock.now, seq := clock.nextSeq, callback }
    nextSeq := clock.nextSeq + 1 }

def SimClock.setTime (clock : SimClock κ) (t : Time) : SimClock κ := { clock with now := t }

/-- What a call of `schedule_at` asks for. -/
structure ScheduleCall (κ : Type) where
  time : Time
  callback : Option κ

/-- What the callbacks do: each gets the time, may look at the clock and at what surrounds it, and
schedules further events. -/
abbrev Callbacks (κ σ : Type) := κ → Time → SimClock κ → σ → σ × List (ScheduleCall κ)

/-- An event that was taken from the queue, with the time that its callback was given. -/
structure Invocation (κ : Type) where
  event : Event κ
  time : Time

/-- A clock in use: what its callbacks see besides, the calls of `schedule_at` and the invocations
so far, and the limit of the `run_until` that is going on. -/
structure Simulation (κ σ : Type) where
  clock : SimClock κ := {}
  surroundings : σ
  scheduled : List (ScheduleCall κ) := []
  invoked : List (Invocation κ) := []
  running : Option Time := none

def Simulation.scheduleAt (s : Simulation κ σ) (call : ScheduleCall κ) : Simulation κ σ :=
  { s with clock := s.clock.scheduleAt call.time call.callback, scheduled := s.scheduled ++ [call] }

def Simulation.scheduleAll (s : Simulation κ σ) (calls : List (ScheduleCall κ)) : Simulation κ σ :=
  calls.foldl Simulation.scheduleAt s

def Simulation.take (s : Simulation κ σ) (event : Event κ) : Simulation κ σ :=
  { s with
    clock := { s.clock with now := event.time, queue := s.clock.queue.pop }
    invoked := s.invoked ++ [{ event, time := event.time }] }

def Simulation.call (callbacks : Callbacks κ σ) (s : Simulation κ σ) : Option κ → Simulation κ σ
  | none => s
  | some callback =>
    let (surroundings, calls) := callbacks callback s.clock.now s.clock s.surroundings
    { s with surroundings }.scheduleAll calls

def Simulation.advanceToNext (callbacks : Callbacks κ σ) (s : Simulation κ σ) : Simulation κ σ :=
  match s.clock.queue.events with
  | [] => s
  | event :: _ => (s.take event).call callbacks event.callback

inductive ClockAction (κ : Type) where
  | scheduleAt (call : ScheduleCall κ)
  | advanceToNext
  | setTime (t : Time)
  | runUntil (limit : Time)
  /-- One turn of the loop of `run_until`, or its end. -/
  | turn

def Simulation.step (callbacks : Callbacks κ σ) (s : Simulation κ σ) :
    ClockAction κ → Simulation κ σ
  | .scheduleAt call => s.scheduleAt call
  | .advanceToNext => s.advanceToNext callbacks
  | .setTime t => { s with clock := s.clock.setTime t }
  | .runUntil limit => if limit < s.clock.now then s else { s with running := some limit }
  | .turn =>
    match s.running with
    | none => s
    | some limit =>
      if s.clock.queue.events.head?.any fun event => event.time ≤ limit
        then s.advanceToNext callbacks
      else { s with clock := s.clock.setTime (max s.clock.now limit), running := none }

/-- `set_time` is given a time not before the current one, and a `run_until` ends before the next
call from outside. -/
def Possible (s : Simulation κ σ) : ClockAction κ → Prop
  | .setTime t => s.running = none ∧ s.clock.now ≤ t
  | .turn => s.running ≠ none
  | _ => s.running = none

instance (s : Simulation κ σ) : DecidablePred (Possible s)
  | .setTime t => inferInstanceAs (Decidable (s.running = none ∧ s.clock.now ≤ t))
  | .turn => inferInstanceAs (Decidable (s.running ≠ none))
  | .scheduleAt _ | .advanceToNext | .runUntil _ => inferInstanceAs (Decidable (s.running = none))

/-- The events invoked so far, and the pending ones. -/
def Simulation.events (s : Simulation κ σ) : List (Event κ) :=
  s.invoked.map (·.event) ++ s.clock.queue.events

/-- The callbacks ran in the order in which they were due, none of them before the time that it was
scheduled for, and every call of `schedule_at` is either pending or was invoked once. -/
structure InOrder (s : Simulation κ σ) : Prop where
  ordered : s.invoked.Pairwise fun i j => i.event.due < j.event.due
  punctual : ∀ i ∈ s.invoked, ∃ call, s.scheduled[i.event.seq]? = some call ∧
    i.event.callback = call.callback ∧ call.time ≤ i.time
  once : (s.events.map (·.seq)).Perm (List.range s.scheduled.length)

/-- The action is the last one of a `run_until` with the limit. -/
def Returns (callbacks : Callbacks κ σ) (s : Simulation κ σ) (a : ClockAction κ)
    (limit : Time) : Prop :=
  (s.running = some limit ∨ a = .runUntil limit) ∧ (s.step callbacks a).running = none

/-- The clock does not go back, a callback is given the current time, and a `run_until` leaves
nothing pending up to its limit. -/
structure Proper (callbacks : Callbacks κ σ) (s : Simulation κ σ) (a : ClockAction κ) : Prop where
  monotone : s.clock.now ≤ (s.step callbacks a).clock.now
  current : ∀ i, (s.step callbacks a).invoked = s.invoked ++ [i] →
    i.time = (s.step callbacks a).clock.now
  complete : ∀ limit, Returns callbacks s a limit →
    ∀ e ∈ (s.step callbacks a).clock.queue.events, limit < e.time

/-- No event is pending in the past when the clock advances, up to the limit in a `run_until`, and a
`run_until` with a limit in the past finds nothing pending up to it. -/
def Timely (s : Simulation κ σ) : ClockAction κ → Prop
  | .advanceToNext => ∀ e ∈ s.clock.queue.events, s.clock.now ≤ e.time
  | .runUntil limit => limit < s.clock.now → ∀ e ∈ s.clock.queue.events, limit < e.time
  | .turn => ∀ limit ∈ s.running, ∀ e ∈ s.clock.queue.events, e.time ≤ limit → s.clock.now ≤ e.time
  | .scheduleAt _ | .setTime _ => True

instance (s : Simulation κ σ) : DecidablePred (Timely s)
  | .advanceToNext => inferInstanceAs (Decidable (∀ e ∈ s.clock.queue.events, s.clock.now ≤ e.time))
  | .runUntil limit =>
    inferInstanceAs (Decidable (limit < s.clock.now → ∀ e ∈ s.clock.queue.events, limit < e.time))
  | .turn => inferInstanceAs (Decidable (∀ limit ∈ s.running, ∀ e ∈ s.clock.queue.events,
      e.time ≤ limit → s.clock.now ≤ e.time))
  | .scheduleAt _ | .setTime _ => isTrue trivial

section Steps

variable {callbacks : Callbacks κ σ} {s : Simulation κ σ}

/-- Scheduling and the callbacks leave the time and what was invoked alone. -/
structure SameRun (s t : Simulation κ σ) : Prop where
  now : t.clock.now = s.clock.now
  invoked : t.invoked = s.invoked
  running : t.running = s.running

theorem scheduleAll_sameRun (calls : List (ScheduleCall κ)) : SameRun s (s.scheduleAll calls) := by
  induction calls generalizing s with
  | nil => exact ⟨rfl, rfl, rfl⟩
  | cons call rest ih =>
    have h : SameRun (s.scheduleAt call) (s.scheduleAll (call :: rest)) := ih
    exact ⟨h.now, h.invoked, h.running⟩

theorem call_sameRun (callback : Option κ) : SameRun s (s.call callbacks callback) := by
  cases callback with
  | none => exact ⟨rfl, rfl, rfl⟩
  | some callback =>
    have h :=
      scheduleAll_sameRun
        (s := { s with surroundings := (callbacks callback s.clock.now s.clock s.surroundings).1 })
      (callbacks callback s.clock.now s.clock s.surroundings).2
    exact ⟨h.now, h.invoked, h.running⟩

theorem EventQueue.time_le_of_cons (queue : EventQueue κ) {top : Event κ} {rest : List (Event κ)}
    (h : queue.events = top :: rest) : ∀ e ∈ queue.events, top.time ≤ e.time := by
  have hordered := queue.ordered
  rw [h] at hordered ⊢
  intro e he
  rcases List.mem_cons.mp he with rfl | he
  · exact le_rfl
  · exact Event.time_le (Event.not_after_iff.mp (List.rel_of_pairwise_cons hordered he))

theorem advanceToNext_of_nil (h : s.clock.queue.events = []) : s.advanceToNext callbacks = s := by
  rw [Simulation.advanceToNext, h]

theorem advanceToNext_of_cons {top : Event κ} {rest : List (Event κ)}
    (h : s.clock.queue.events = top :: rest) :
    s.advanceToNext callbacks = (s.take top).call callbacks top.callback := by
  rw [Simulation.advanceToNext, h]

theorem not_append_singleton {α : Type} (l : List α) (a : α) : l ≠ l ++ [a] := by
  intro h
  simpa using congrArg List.length h

theorem advanceToNext_running : (s.advanceToNext callbacks).running = s.running := by
  cases h : s.clock.queue.events with
  | nil => rw [advanceToNext_of_nil h]
  | cons top rest =>
    rw [advanceToNext_of_cons h]
    exact (call_sameRun top.callback).running

theorem advanceToNext_monotone_iff :
    s.clock.now ≤ (s.advanceToNext callbacks).clock.now ↔
      ∀ e ∈ s.clock.queue.events, s.clock.now ≤ e.time := by
  cases h : s.clock.queue.events with
  | nil =>
    rw [advanceToNext_of_nil h]
    exact iff_of_true le_rfl (by simp)
  | cons top rest =>
    have hnow : (s.advanceToNext callbacks).clock.now = top.time := by
      rw [advanceToNext_of_cons h]
      exact (call_sameRun top.callback).now
    have htop := s.clock.queue.time_le_of_cons h
    rw [h] at htop
    rw [hnow]
    exact ⟨fun hle e he => hle.trans (htop e he), fun hall => hall top List.mem_cons_self⟩

theorem advanceToNext_current {i : Invocation κ}
    (hi : (s.advanceToNext callbacks).invoked = s.invoked ++ [i]) :
    i.time = (s.advanceToNext callbacks).clock.now := by
  cases h : s.clock.queue.events with
  | nil =>
    rw [advanceToNext_of_nil h] at hi
    exact absurd hi (not_append_singleton s.invoked i)
  | cons top rest =>
    rw [advanceToNext_of_cons h] at hi ⊢
    have hsame := @call_sameRun κ σ callbacks (s.take top) top.callback
    rw [hsame.invoked] at hi
    obtain rfl : { event := top, time := top.time } = i := by
      simpa [Simulation.take] using hi
    exact hsame.now.symm

/-- The loop of a `run_until` goes on exactly while the next event is not later than the limit. -/
theorem turn_of_due {limit : Time} (hrunning : s.running = some limit) {top : Event κ}
    {rest : List (Event κ)} (h : s.clock.queue.events = top :: rest) (hdue : top.time ≤ limit) :
    s.step callbacks .turn = s.advanceToNext callbacks := by
  simp [Simulation.step, hrunning, h, hdue]

theorem turn_of_later {limit : Time} (hrunning : s.running = some limit)
    (hlater : ∀ e ∈ s.clock.queue.events, limit < e.time) :
    s.step callbacks .turn =
      { s with clock := s.clock.setTime (max s.clock.now limit), running := none } := by
  have hhead : ¬(s.clock.queue.events.head?.any fun event => event.time ≤ limit) = true := by
    cases h : s.clock.queue.events with
    | nil => simp
    | cons top rest => simpa using hlater top (by simp [h])
  simp only [Simulation.step, hrunning]
  exact if_neg hhead

theorem due_or_later (queue : EventQueue κ) (limit : Time) :
    (∃ top rest, queue.events = top :: rest ∧ top.time ≤ limit) ∨
      ∀ e ∈ queue.events, limit < e.time := by
  cases h : queue.events with
  | nil => exact Or.inr (by simp)
  | cons top rest =>
    by_cases hdue : top.time ≤ limit
    · exact Or.inl ⟨top, rest, rfl, hdue⟩
    · have htop := queue.time_le_of_cons h
      rw [h] at htop
      exact Or.inr fun e he => lt_of_lt_of_le (not_le.mp hdue) (htop e he)

theorem proper_of_no_invocation {a : ClockAction κ}
    (hinvoked : (s.step callbacks a).invoked = s.invoked)
    (hnow : s.clock.now ≤ (s.step callbacks a).clock.now)
    (hcomplete : ∀ limit, Returns callbacks s a limit →
      ∀ e ∈ (s.step callbacks a).clock.queue.events, limit < e.time) :
    Proper callbacks s a :=
  ⟨hnow, fun i hi => absurd (hinvoked.symm.trans hi) (not_append_singleton s.invoked i), hcomplete⟩

theorem turn_proper_iff {limit : Time} (hrunning : s.running = some limit) :
    Proper callbacks s .turn ↔ Timely s .turn := by
  have htimely : Timely s .turn ↔ ∀ e ∈ s.clock.queue.events, e.time ≤ limit →
      s.clock.now ≤ e.time := by
    simp [Timely, hrunning]
  rw [htimely]
  rcases due_or_later s.clock.queue limit with ⟨top, rest, h, hdue⟩ | hlater
  · have hturn := @turn_of_due κ σ callbacks s limit hrunning top rest h hdue
    have htop := s.clock.queue.time_le_of_cons h
    constructor
    · intro hproper e he _
      have hmonotone := hproper.monotone
      rw [hturn] at hmonotone
      exact advanceToNext_monotone_iff.mp hmonotone e he
    · intro hall
      have hle := hall top (by simp [h]) hdue
      refine ⟨?_, fun i hi => ?_, fun l hreturns => ?_⟩
      · rw [hturn]
        exact advanceToNext_monotone_iff.mpr fun e he => hle.trans (htop e he)
      · rw [hturn] at hi ⊢
        exact advanceToNext_current hi
      · have hgoing := hreturns.2
        rw [hturn, advanceToNext_running, hrunning] at hgoing
        nomatch hgoing
  · have hturn := @turn_of_later κ σ callbacks s limit hrunning hlater
    refine iff_of_true (proper_of_no_invocation (by rw [hturn]) ?_ ?_)
      fun e he hdue => absurd hdue (not_le.mpr (hlater e he))
    · rw [hturn]
      exact le_max_left _ _
    · rintro l ⟨hl | hl, -⟩
      · rw [hturn]
        obtain rfl : limit = l := Option.some.inj (hrunning.symm.trans hl)
        exact hlater
      · nomatch hl

theorem proper_iff_timely {a : ClockAction κ} (hpossible : Possible s a) :
    Proper callbacks s a ↔ Timely s a := by
  cases a with
  | scheduleAt call =>
    refine iff_of_true (proper_of_no_invocation rfl le_rfl ?_) trivial
    rintro limit ⟨hl | hl, -⟩
    · nomatch (show s.running = none from hpossible).symm.trans hl
    · nomatch hl
  | setTime t =>
    refine iff_of_true (proper_of_no_invocation rfl hpossible.2 ?_) trivial
    rintro limit ⟨hl | hl, -⟩
    · nomatch hpossible.1.symm.trans hl
    · nomatch hl
  | advanceToNext =>
    refine ⟨fun hproper => advanceToNext_monotone_iff.mp hproper.monotone, fun htimely =>
      ⟨advanceToNext_monotone_iff.mpr htimely, fun i hi => advanceToNext_current hi, ?_⟩⟩
    rintro limit ⟨hl | hl, -⟩
    · nomatch (show s.running = none from hpossible).symm.trans hl
    · nomatch hl
  | runUntil limit =>
    have hidle : s.running = none := hpossible
    by_cases hpast : limit < s.clock.now
    · have hstep : s.step callbacks (.runUntil limit) = s := if_pos hpast
      constructor
      · intro hproper _
        have hcomplete := hproper.complete limit ⟨Or.inr rfl, by rwa [hstep]⟩
        rwa [hstep] at hcomplete
      · intro htimely
        refine proper_of_no_invocation (by rw [hstep]) (by rw [hstep]) ?_
        rintro l ⟨hl | hl, -⟩
        · nomatch hidle.symm.trans hl
        · cases hl
          rw [hstep]
          exact htimely hpast
    · have hstep : s.step callbacks (.runUntil limit) = { s with running := some limit } :=
        if_neg hpast
      refine iff_of_true (proper_of_no_invocation (by rw [hstep]) (by rw [hstep]) ?_) fun h =>
        absurd h hpast
      rintro l ⟨-, hreturned⟩
      rw [hstep] at hreturned
      nomatch hreturned
  | turn =>
    obtain ⟨limit, hrunning⟩ := Option.ne_none_iff_exists'.mp hpossible
    exact turn_proper_iff hrunning

end Steps

/-- What keeps the invocations in order, whatever is pending in the past. -/
structure Kept (s : Simulation κ σ) : Prop where
  due : s.events.Pairwise fun e f => e.due ≤ f.due
  passed : ∀ i ∈ s.invoked, i.time = i.event.time ∧ i.time ≤ s.clock.now
  asked : ∀ e ∈ s.events, ∃ call, s.scheduled[e.seq]? = some call ∧ e.callback = call.callback ∧
    call.time ≤ e.time
  once : (s.events.map (·.seq)).Perm (List.range s.scheduled.length)
  numbered : s.clock.nextSeq = s.scheduled.length

section Runs

variable {callbacks : Callbacks κ σ} {s : Simulation κ σ}

theorem Kept.start (surroundings : σ) : Kept ({ surroundings } : Simulation κ σ) where
  due := List.Pairwise.nil
  passed := by simp
  asked := by simp [Simulation.events, EventQueue.empty]
  once := .refl _
  numbered := rfl

theorem Kept.seq_lt (h : Kept s) {e : Event κ} (he : e ∈ s.events) : e.seq < s.scheduled.length :=
  List.mem_range.mp (h.once.mem_iff.mp (List.mem_map_of_mem he))

theorem Kept.inOrder (h : Kept s) : InOrder s where
  ordered := by
    have hdistinct : (s.events.map (·.seq)).Nodup := h.once.nodup_iff.mpr List.nodup_range
    have hstrict : s.events.Pairwise fun e f => e.due < f.due := by
      refine (h.due.and (List.pairwise_map.mp hdistinct)).imp ?_
      rintro e f ⟨hle, hne⟩
      exact lt_of_le_of_ne hle fun heq => hne (Prod.ext_iff.mp heq).2
    have hinvoked := (List.pairwise_append.mp hstrict).1
    rwa [List.pairwise_map] at hinvoked
  punctual i hi := by
    obtain ⟨call, hcall, hcallback, hle⟩ := h.asked i.event
      (List.mem_append_left _ (List.mem_map_of_mem hi))
    exact ⟨call, hcall, hcallback, (h.passed i hi).1 ▸ hle⟩
  once := h.once

theorem Kept.scheduleAt (h : Kept s) (call : ScheduleCall κ) : Kept (s.scheduleAt call) := by
  set event : Event κ :=
    { time := max call.time s.clock.now, seq := s.clock.nextSeq,
      callback := call.callback } with hevent
  have hevents : (s.scheduleAt call).events = s.invoked.map (·.event) ++
      insertEvent event s.clock.queue.events := rfl
  have hperm : (s.scheduleAt call).events.Perm (event :: s.events) := by
    rw [hevents]
    exact ((insertEvent_perm event _).append_left _).trans List.perm_middle
  have hparts := List.pairwise_append.mp h.due
  refine ⟨?_, h.passed, fun e he => ?_, ?_, ?_⟩
  · rw [hevents]
    refine List.pairwise_append.mpr ⟨hparts.1, ?_, fun e he f hf => ?_⟩
    · exact (insertEvent_ordered s.clock.queue.ordered).imp fun hnot => Event.not_after_iff.mp hnot
    · rcases List.mem_cons.mp ((insertEvent_perm event _).mem_iff.mp hf) with rfl | hf
      · obtain ⟨i, hi, rfl⟩ := List.mem_map.mp he
        have htime : i.event.time ≤ event.time :=
          (h.passed i hi).1 ▸ (h.passed i hi).2.trans (le_max_right _ _)
        have hseq : i.event.seq ≤ event.seq := by
          have := h.seq_lt (List.mem_append_left _ he)
          rw [← h.numbered] at this
          exact this.le
        exact Prod.Lex.toLex_mono ⟨htime, hseq⟩
      · exact hparts.2.2 e he f hf
  · rcases List.mem_cons.mp (hperm.mem_iff.mp he) with rfl | he
    · refine ⟨call, ?_, rfl, le_max_left _ _⟩
      change (s.scheduled ++ [call])[s.clock.nextSeq]? = some call
      rw [h.numbered]
      exact List.getElem?_concat_length
    · obtain ⟨c, hc, hrest⟩ := h.asked e he
      refine ⟨c, ?_, hrest⟩
      change (s.scheduled ++ [call])[e.seq]? = some c
      rw [List.getElem?_append_left (h.seq_lt he)]
      exact hc
  · change List.Perm _ (List.range (s.scheduled ++ [call]).length)
    rw [List.length_append, List.length_singleton, List.range_succ]
    refine ((hperm.map (·.seq)).trans ?_).trans (List.perm_append_singleton _ _).symm
    rw [List.map_cons, ← h.numbered]
    exact (h.numbered ▸ h.once).cons _
  · change s.clock.nextSeq + 1 = (s.scheduled ++ [call]).length
    rw [h.numbered, List.length_append, List.length_singleton]

theorem Kept.scheduleAll (h : Kept s) (calls : List (ScheduleCall κ)) :
    Kept (s.scheduleAll calls) := by
  induction calls generalizing s with
  | nil => exact h
  | cons call rest ih => exact ih (h.scheduleAt call)

theorem Kept.call (h : Kept s) (callback : Option κ) : Kept (s.call callbacks callback) := by
  cases callback with
  | none => exact h
  | some callback =>
    have hsame : Kept
        { s with surroundings := (callbacks callback s.clock.now s.clock s.surroundings).1 } :=
      ⟨h.due, h.passed, h.asked, h.once, h.numbered⟩
    exact hsame.scheduleAll _

theorem Kept.take (h : Kept s) {top : Event κ} {rest : List (Event κ)}
    (hcons : s.clock.queue.events = top :: rest) :
    Kept (s.take top) := by
  have hevents : (s.take top).events = s.events := by
    simp [Simulation.events, Simulation.take, EventQueue.pop, hcons]
  refine ⟨hevents ▸ h.due, fun i hi => ?_, hevents ▸ h.asked, hevents ▸ h.once, h.numbered⟩
  rcases List.mem_append.mp hi with hi | hi
  · have hdue :=
      (List.pairwise_append.mp h.due).2.2 i.event (List.mem_map_of_mem hi) top (by simp [hcons])
    exact ⟨(h.passed i hi).1, (h.passed i hi).1 ▸ Event.time_le hdue⟩
  · obtain rfl := List.mem_singleton.mp hi
    exact ⟨rfl, le_rfl⟩

theorem Kept.setTime (h : Kept s) {t : Time} (hle : s.clock.now ≤ t) (running : Option Time) :
    Kept { s with clock := s.clock.setTime t, running } :=
  ⟨h.due, fun i hi => ⟨(h.passed i hi).1, (h.passed i hi).2.trans hle⟩, h.asked, h.once, h.numbered⟩

theorem Kept.advanceToNext (h : Kept s) : Kept (s.advanceToNext callbacks) := by
  cases hevents : s.clock.queue.events with
  | nil => rwa [advanceToNext_of_nil hevents]
  | cons top rest =>
    rw [advanceToNext_of_cons hevents]
    exact (h.take hevents).call top.callback

theorem Kept.step (h : Kept s) {a : ClockAction κ} (hpossible : Possible s a) :
    Kept (s.step callbacks a) := by
  cases a with
  | scheduleAt call => exact h.scheduleAt call
  | advanceToNext => exact h.advanceToNext
  | setTime t => exact h.setTime hpossible.2 s.running
  | runUntil limit =>
    rw [Simulation.step]
    split
    · exact h
    · exact ⟨h.due, h.passed, h.asked, h.once, h.numbered⟩
  | turn =>
    obtain ⟨limit, hrunning⟩ := Option.ne_none_iff_exists'.mp hpossible
    rcases due_or_later s.clock.queue limit with ⟨top, rest, hcons, hdue⟩ | hlater
    · rw [turn_of_due hrunning hcons hdue]
      exact h.advanceToNext
    · rw [turn_of_later hrunning hlater]
      exact h.setTime (le_max_left _ _) none

/-- A clock whose time is never set back keeps its callbacks in order, and it is monotonic with
complete calls of `run_until` exactly in the runs in which no event is pending in the past when the
clock advances, and none up to a limit that lies in the past. -/
theorem simClock_monotonic_ordered_iff (callbacks : Callbacks κ σ) (surroundings : σ)
    (actions : List (ClockAction κ))
    (hpossible : Meets (Simulation.step callbacks) Possible { surroundings } actions) :
    Meets (Simulation.step callbacks) (Proper callbacks) { surroundings } actions ∧
        Throughout (Simulation.step callbacks) InOrder { surroundings } actions ↔
      Meets (Simulation.step callbacks) Timely { surroundings } actions := by
  have hkept := Kept.start (κ := κ) surroundings
  have hsteps : ∀ (t : Simulation κ σ) a, Kept t → Possible t a → Kept (t.step callbacks a) :=
    fun _ _ h ha => h.step ha
  have hordered : Throughout (Simulation.step callbacks) InOrder { surroundings } actions :=
    (hpossible.throughout hkept hsteps).mono fun _ h => h.inOrder
  rw [and_iff_left hordered]
  exact hpossible.congr hkept hsteps fun _ _ _ ha => proper_iff_timely ha

end Runs

/-- A callback that schedules a second event two time units before the current time. -/
def schedulesBack :
    Callbacks Bool Unit :=
  fun again t _ u => (u, if again then [{ time := t - 2, callback := some false }] else [])

def clampedRun : List (ClockAction Bool) :=
  [.scheduleAt { time := 5, callback := some true }, .runUntil 7, .turn, .turn, .turn]

theorem clampedRun_proper :
    Meets (Simulation.step schedulesBack) (Proper schedulesBack) { surroundings := () } clampedRun ∧
      Throughout (Simulation.step schedulesBack) InOrder { surroundings := () } clampedRun :=
  (simClock_monotonic_ordered_iff schedulesBack () clampedRun (by decide)).mpr (by decide)

/-- The event at 5 is passed by `set_time`, and the clock goes back to it. -/
def passedRun : List (ClockAction Bool) :=
  [.scheduleAt { time := 5, callback := some false }, .setTime 10, .advanceToNext]

theorem passedRun_moves_back :
    Meets (Simulation.step schedulesBack) Possible { surroundings := () } passedRun ∧
      ¬(Meets (Simulation.step schedulesBack) (Proper schedulesBack)
        { surroundings := () } passedRun ∧
        Throughout (Simulation.step schedulesBack) InOrder { surroundings := () } passedRun) := by
  refine ⟨by decide, fun h => ?_⟩
  have hmonotone : (10 : Time) ≤ 5 := h.1.2.2.1.monotone
  exact absurd hmonotone (by decide)

end TaskOrchestrator.Core
