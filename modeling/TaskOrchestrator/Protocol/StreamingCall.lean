import TaskOrchestrator.Library.Machine
import TaskOrchestrator.Protocol.Messages

/-!
# A streaming call of the gRPC server

`AsyncStreamingServerCall`: one call object, its producer and the tags of it that are outstanding
in the completion queue. All tags are the address of the object, so that the object does not see
which of its operations is complete and goes by its own state. The critical sections of the
producer and of `proceed` are steps, and the completion queue is there while the server runs.
-/

namespace TaskOrchestrator.Grpc

open Library Protocol

set_option autoImplicit false

inductive CallState where
  | requesting
  | waitingForEvent
  | writing
  | finishing
  | completed
  deriving DecidableEq

inductive Tag where
  | request
  | alarm
  | write
  | finish
  deriving DecidableEq

/-- How many tags are outstanding, by the operation they are for. -/
structure Outstanding where
  requests : Nat := 0
  alarms : Nat := 0
  writes : Nat := 0
  finishes : Nat := 0

namespace Outstanding

def total (tags : Outstanding) : Nat := tags.requests + tags.alarms + tags.writes + tags.finishes

def count (tags : Outstanding) : Tag → Nat
  | .request => tags.requests
  | .alarm => tags.alarms
  | .write => tags.writes
  | .finish => tags.finishes

def take (tags : Outstanding) : Tag → Outstanding
  | .request => { tags with requests := tags.requests - 1 }
  | .alarm => { tags with alarms := tags.alarms - 1 }
  | .write => { tags with writes := tags.writes - 1 }
  | .finish => { tags with finishes := tags.finishes - 1 }

end Outstanding

/-- The object and the queue, with what has happened so far: `produced` are the events that were
enqueued, `written` those that were passed to `Write`, and `queueReleases` counts how often the
queue's side has released its reference. -/
structure Call where
  state : CallState := .requesting
  pendingEvents : List WorkflowEvent := []
  producerComplete : Bool := false
  clientClosed : Bool := false
  notificationPending : Bool := false
  outstanding : Outstanding := { requests := 1 }
  produced : List WorkflowEvent := []
  written : List WorkflowEvent := []
  finishIssued : Bool := false
  queueReleases : Nat := 0

namespace Call

def scheduleNotificationLocked (call : Call) : Call :=
  if call.notificationPending then call
  else { call with
    notificationPending := true
    outstanding.alarms := call.outstanding.alarms + 1 }

def enqueueEvent (call : Call) (event : WorkflowEvent) : Call :=
  if call.clientClosed then call
  else scheduleNotificationLocked { call with
    pendingEvents := call.pendingEvents ++ [event]
    produced := call.produced ++ [event] }

def markProducerComplete (call : Call) : Call :=
  scheduleNotificationLocked { call with producerComplete := true }

def releaseReference (call : Call) : Call := { call with queueReleases := call.queueReleases + 1 }

def write (call : Call) (event : WorkflowEvent) (rest : List WorkflowEvent) : Call :=
  { call with
    state := .writing
    pendingEvents := rest
    written := call.written ++ [event]
    outstanding.writes := call.outstanding.writes + 1 }

def finish (call : Call) : Call :=
  { call with
    state := .finishing
    finishIssued := true
    outstanding.finishes := call.outstanding.finishes + 1 }

def handleNotification (call : Call) : Call :=
  let call := { call with notificationPending := false }
  match call.pendingEvents with
  | event :: rest => call.write event rest
  | [] => if call.producerComplete then call.finish else call

/-- The pending notification stays marked here. -/
def handleWriteComplete (call : Call) (ok : Bool) : Call :=
  if ok = false then
    releaseReference { call with clientClosed := true, pendingEvents := [], state := .completed }
  else
    match call.pendingEvents with
    | event :: rest => call.write event rest
    | [] => if call.producerComplete then call.finish else { call with state := .waitingForEvent }

def proceed (call : Call) (ok : Bool) : Call :=
  match call.state with
  | .requesting => if ok = false then call.releaseReference
    else { call with state := .waitingForEvent }
  | .waitingForEvent =>
    if ok = false then releaseReference { call with state := .completed }
      else call.handleNotification
  | .writing => call.handleWriteComplete ok
  | .finishing => releaseReference { call with state := .completed }
  | .completed => call.releaseReference

inductive Action where
  | enqueueEvent (event : WorkflowEvent)
  | markProducerComplete
  /-- The queue returns a tag, with `ok` set. -/
  | complete (tag : Tag)

def step (call : Call) : Action → Call
  | .enqueueEvent event => call.enqueueEvent event
  | .markProducerComplete => call.markProducerComplete
  | .complete tag => proceed { call with outstanding := call.outstanding.take tag } true

/-- The producer runs from the request on until it is complete, and the queue returns tags that
are outstanding. -/
def Possible (call : Call) : Action → Prop
  | .enqueueEvent _ => call.state ≠ .requesting ∧ call.producerComplete = false
  | .markProducerComplete => call.state ≠ .requesting ∧ call.producerComplete = false
  | .complete tag => 0 < call.outstanding.count tag

instance (call : Call) : (action : Action) → Decidable (call.Possible action)
  | .enqueueEvent _ =>
    inferInstanceAs (Decidable (call.state ≠ .requesting ∧ call.producerComplete = false))
  | .markProducerComplete =>
    inferInstanceAs (Decidable (call.state ≠ .requesting ∧ call.producerComplete = false))
  | .complete tag => inferInstanceAs (Decidable (0 < call.outstanding.count tag))

def initial : Call := {}

/-- What the call owes its client and the queue. -/
structure Delivers (call : Call) : Prop where
  oneOperation : call.outstanding.writes + call.outstanding.finishes ≤ 1
  inOrder : call.written ++ call.pendingEvents = call.produced
  finishLast : call.finishIssued = true → call.producerComplete = true ∧
    call.written = call.produced
  releasedLast : 0 < call.queueReleases → call.outstanding.total = 0
  notStalled : call.pendingEvents ≠ [] ∨ call.producerComplete = true → call.finishIssued = false →
    0 < call.outstanding.total

/-- The queue returns no alarm while an event is being written and there is more to do, and no
alarm is left when a tag is returned after `Finish`. -/
def Orderly (call : Call) : Action → Prop
  | .complete tag =>
    (call.state = .writing → tag = .alarm → call.pendingEvents = [] ∧
      call.producerComplete = false) ∧
      (call.state = .finishing → call.outstanding.alarms = 0)
  | _ => True

instance (call : Call) : (action : Action) → Decidable (call.Orderly action)
  | .enqueueEvent _ => isTrue trivial
  | .markProducerComplete => isTrue trivial
  | .complete tag => inferInstanceAs (Decidable (
    (call.state = .writing → tag = .alarm → call.pendingEvents = [] ∧
      call.producerComplete = false) ∧
      (call.state = .finishing → call.outstanding.alarms = 0)))

inductive Phase (call : Call) : Prop where
  | requesting (hstate : call.state = .requesting) (htags : call.outstanding = { requests := 1 })
      (hflag : call.notificationPending = false) (hpending : call.pendingEvents = [])
      (hproducer : call.producerComplete = false) (hfinish : call.finishIssued = false)
      (hreleases : call.queueReleases = 0)
  | waiting (hstate : call.state = .waitingForEvent)
      (htags : call.outstanding = { alarms := call.notificationPending.toNat })
      (hidle : call.notificationPending = false → call.pendingEvents = [] ∧
        call.producerComplete = false)
      (hfinish : call.finishIssued = false) (hreleases : call.queueReleases = 0)
  /-- An alarm was returned before the write that it overtook. -/
  | overtaken (hstate : call.state = .waitingForEvent) (htags : call.outstanding = { writes := 1 })
      (hflag : call.notificationPending = true) (hfinish : call.finishIssued = false)
      (hreleases : call.queueReleases = 0)
  | writing (hstate : call.state = .writing)
      (htags : call.outstanding = { alarms := call.notificationPending.toNat, writes := 1 })
      (hfinish : call.finishIssued = false) (hreleases : call.queueReleases = 0)
  | finishing (hstate : call.state = .finishing)
      (htags : call.outstanding = { alarms := call.notificationPending.toNat, finishes := 1 })
      (hfinish : call.finishIssued = true) (hpending : call.pendingEvents = [])
      (hproducer : call.producerComplete = true) (hreleases : call.queueReleases = 0)
  | completed (hstate : call.state = .completed) (htags : call.outstanding = {})
    (hfinish : call.finishIssued = true)
      (hpending : call.pendingEvents = []) (hproducer : call.producerComplete = true)

structure Steady (call : Call) : Prop where
  inOrder : call.written ++ call.pendingEvents = call.produced
  clientOpen : call.clientClosed = false
  phase : call.Phase

theorem initial_steady : initial.Steady := ⟨rfl, rfl, .requesting rfl rfl rfl rfl rfl rfl rfl⟩

theorem Steady.delivers {call : Call} (h : call.Steady) : call.Delivers := by
  obtain ⟨horder, -, hphase⟩ := h
  have hwritten : call.pendingEvents = [] → call.written = call.produced := by
    intro hpending
    rw [← horder, hpending, List.append_nil]
  cases hphase with
  | requesting hstate htags hflag hpending hproducer hfinish hreleases =>
    refine ⟨by simp [htags], horder, by simp [hfinish], by simp [hreleases],
      by simp [htags, Outstanding.total]⟩
  | waiting hstate htags hidle hfinish hreleases =>
    refine ⟨by simp [htags], horder, by simp [hfinish], by simp [hreleases], ?_⟩
    intro hbusy _
    cases hflag : call.notificationPending with
    | true => simp [htags, hflag, Outstanding.total]
    | false =>
      obtain ⟨hpending, hproducer⟩ := hidle hflag
      simp [hpending, hproducer] at hbusy
  | overtaken hstate htags hflag hfinish hreleases =>
    exact ⟨by simp [htags], horder, by simp [hfinish], by simp [hreleases],
      by simp [htags, Outstanding.total]⟩
  | writing hstate htags hfinish hreleases =>
    exact ⟨by simp [htags], horder, by simp [hfinish], by simp [hreleases],
      by simp [htags, Outstanding.total]⟩
  | finishing hstate htags hfinish hpending hproducer hreleases =>
    exact ⟨by simp [htags], horder, fun _ =>
      ⟨hproducer, hwritten hpending⟩, by simp [hreleases], by simp [hfinish]⟩
  | completed hstate htags hfinish hpending hproducer =>
    exact ⟨by simp [htags], horder, fun _ =>
      ⟨hproducer, hwritten hpending⟩, by simp [htags, Outstanding.total], by simp [hfinish]⟩

theorem schedule_phase {call : Call} (hphase : call.Phase) (hstarted : call.state ≠ .requesting)
    (hrunning : call.producerComplete = false) (pending produced : List WorkflowEvent)
    (complete : Bool) :
    (scheduleNotificationLocked { call with
      pendingEvents := pending, produced := produced, producerComplete := complete }).Phase := by
  unfold scheduleNotificationLocked
  cases hphase with
  | requesting hstate => exact absurd hstate hstarted
  | waiting hstate htags hidle hfinish hreleases =>
    split_ifs with hflag
    · exact .waiting hstate htags (fun hnone => absurd (hflag.symm.trans hnone) (by simp))
        hfinish hreleases
    · have hnone : call.notificationPending = false := Bool.eq_false_iff.mpr hflag
      exact .waiting hstate (by simp [htags, hnone]) (by simp) hfinish hreleases
  | overtaken hstate htags hflag hfinish hreleases =>
    rw [if_pos hflag]
    exact .overtaken hstate htags hflag hfinish hreleases
  | writing hstate htags hfinish hreleases =>
    split_ifs with hflag
    · exact .writing hstate htags hfinish hreleases
    · have hnone : call.notificationPending = false := Bool.eq_false_iff.mpr hflag
      exact .writing hstate (by simp [htags, hnone]) hfinish hreleases
  | finishing _ _ _ _ hproducer => exact absurd (hrunning.symm.trans hproducer) (by simp)
  | completed _ _ _ _ hproducer => exact absurd (hrunning.symm.trans hproducer) (by simp)

theorem scheduleNotificationLocked_data (call : Call) :
    call.scheduleNotificationLocked.written = call.written ∧
      call.scheduleNotificationLocked.pendingEvents = call.pendingEvents ∧
      call.scheduleNotificationLocked.produced = call.produced ∧
      call.scheduleNotificationLocked.clientClosed = call.clientClosed := by
  unfold scheduleNotificationLocked
  split_ifs <;> exact ⟨rfl, rfl, rfl, rfl⟩

theorem schedule_steady {call : Call} (h : call.Steady) (hstarted : call.state ≠ .requesting)
    (hrunning : call.producerComplete = false) {pending produced : List WorkflowEvent}
    (complete : Bool) (horder : call.written ++ pending = produced) :
    (scheduleNotificationLocked { call with
      pendingEvents := pending, produced := produced, producerComplete := complete }).Steady := by
  have hphase := schedule_phase h.phase hstarted hrunning pending produced complete
  obtain ⟨hwritten, hpending, hproduced, hclosed⟩ := scheduleNotificationLocked_data
    { call with pendingEvents := pending, produced := produced, producerComplete := complete }
  exact ⟨by rw [hwritten, hpending, hproduced]; exact horder, by rw [hclosed]; exact h.clientOpen,
    hphase⟩

theorem enqueueEvent_steady {call : Call} (h : call.Steady) (hstarted : call.state ≠ .requesting)
    (hrunning : call.producerComplete = false) (event : WorkflowEvent) :
    (call.enqueueEvent event).Steady := by
  have horder : call.written ++ (call.pendingEvents ++ [event]) = call.produced ++ [event] := by
    rw [← List.append_assoc, h.inOrder]
  have hsteady := schedule_steady h hstarted hrunning call.producerComplete horder
  rwa [enqueueEvent, if_neg (by simp [h.clientOpen])]

theorem markProducerComplete_steady {call : Call} (h : call.Steady)
    (hstarted : call.state ≠ .requesting) (hrunning : call.producerComplete = false) :
    call.markProducerComplete.Steady :=
  schedule_steady h hstarted hrunning true h.inOrder

/-- The call goes on with the next event, with `Finish`, or waits for one of them. -/
def advance (call : Call) : Call :=
  match call.pendingEvents with
  | event :: rest => call.write event rest
  | [] => if call.producerComplete then call.finish else { call with state := .waitingForEvent }

theorem handleNotification_eq_advance {call : Call} (hstate : call.state = .waitingForEvent) :
    call.handleNotification = advance { call with notificationPending := false } := by
  unfold handleNotification advance
  cases call.pendingEvents with
  | cons event rest => rfl
  | nil => simp [hstate]

theorem handleWriteComplete_eq_advance (call : Call) :
    call.handleWriteComplete true = call.advance := by
  rw [handleWriteComplete, if_neg (by decide)]
  rfl

theorem advance_idle {call : Call} (hpending : call.pendingEvents = [])
    (hproducer : call.producerComplete = false) :
    call.advance = { call with state := .waitingForEvent } := by
  unfold advance
  split
  · rename_i heq
    exact absurd (hpending.symm.trans heq) (by simp)
  · rw [if_neg (by simp [hproducer])]

theorem advance_steady {call : Call} (horder : call.written ++ call.pendingEvents = call.produced)
    (hopen : call.clientClosed = false)
    (htags : call.outstanding = { alarms := call.notificationPending.toNat })
    (hfinish : call.finishIssued = false) (hreleases : call.queueReleases = 0) :
    call.advance.Steady := by
  by_cases hidle : call.pendingEvents = [] ∧ call.producerComplete = false
  · rw [advance_idle hidle.1 hidle.2]
    exact ⟨horder, hopen, .waiting rfl htags (fun _ => hidle) hfinish hreleases⟩
  · unfold advance
    split
    · rename_i event rest hpending
      have hwritten : (call.written ++ [event]) ++ rest = call.produced := by
        rw [← horder, hpending, List.append_assoc, List.singleton_append]
      exact ⟨hwritten, hopen, .writing rfl (by simp [write, htags]) hfinish hreleases⟩
    · rename_i hpending
      have hproducer : call.producerComplete = true := by simpa [hpending] using hidle
      rw [if_pos hproducer]
      exact ⟨horder, hopen,
        .finishing rfl (by simp [finish, htags]) rfl hpending hproducer hreleases⟩

/-- While an operation is outstanding, the next one makes two. -/
theorem advance_not_delivers {call : Call} (hwrite : 0 < call.outstanding.writes)
    (hbusy : ¬(call.pendingEvents = [] ∧ call.producerComplete = false)) :
    ¬call.advance.Delivers := by
  intro hdelivers
  have hone := hdelivers.oneOperation
  unfold advance at hone
  cases hpending : call.pendingEvents with
  | cons event rest =>
    simp only [hpending, write] at hone
    omega
  | nil =>
    have hproducer : call.producerComplete = true := by simpa [hpending] using hbusy
    simp only [hpending, hproducer, if_true, finish] at hone
    omega

theorem complete_steady {call : Call} {tag : Tag} (h : call.Steady)
    (hpossible : 0 < call.outstanding.count tag) (horderly : call.Orderly (.complete tag)) :
    (call.step (.complete tag)).Steady := by
  obtain ⟨horder, hopen, hphase⟩ := h
  cases hphase with
  | requesting hstate htags hflag hpending hproducer hfinish hreleases =>
    have htag : tag = .request := by cases tag <;> simp [htags, Outstanding.count] at hpossible ⊢
    subst htag
    simp only [step, proceed, hstate, Bool.true_eq_false, if_false]
    exact ⟨horder, hopen, .waiting rfl (by simp [htags, hflag, Outstanding.take])
      (fun _ => ⟨hpending, hproducer⟩) hfinish hreleases⟩
  | waiting hstate htags hidle hfinish hreleases =>
    have htag : tag = .alarm := by cases tag <;> simp [htags, Outstanding.count] at hpossible ⊢
    have hflag : call.notificationPending = true := by
      cases hflag : call.notificationPending with
      | true => rfl
      | false => simp [htag, htags, hflag, Outstanding.count] at hpossible
    subst htag
    simp only [step, proceed, hstate, Bool.true_eq_false, if_false, handleNotification_eq_advance]
    exact advance_steady horder hopen (by simp [htags, hflag, Outstanding.take]) hfinish hreleases
  | overtaken hstate htags hflag hfinish hreleases =>
    have htag : tag = .write := by cases tag <;> simp [htags, Outstanding.count] at hpossible ⊢
    subst htag
    simp only [step, proceed, hstate, Bool.true_eq_false, if_false, handleNotification_eq_advance]
    exact advance_steady horder hopen (by simp [htags, Outstanding.take]) hfinish hreleases
  | writing hstate htags hfinish hreleases =>
    simp only [step, proceed, hstate, handleWriteComplete_eq_advance]
    cases tag with
    | write =>
      exact advance_steady horder hopen (by simp [htags, Outstanding.take]) hfinish hreleases
    | alarm =>
      obtain ⟨hpending, hproducer⟩ := horderly.1 hstate rfl
      have hflag : call.notificationPending = true := by
        cases hflag : call.notificationPending with
        | true => rfl
        | false => simp [htags, hflag, Outstanding.count] at hpossible
      rw [advance_idle (by exact hpending) (by exact hproducer)]
      exact ⟨horder, hopen, .overtaken rfl (by simp [htags, hflag, Outstanding.take]) hflag hfinish
        hreleases⟩
    | request => simp [htags, Outstanding.count] at hpossible
    | finish => simp [htags, Outstanding.count] at hpossible
  | finishing hstate htags hfinish hpending hproducer hreleases =>
    have halarms := horderly.2 hstate
    have hflag : call.notificationPending = false := by
      cases hflag : call.notificationPending with
      | false => rfl
      | true => simp [htags, hflag] at halarms
    have htag : tag = .finish := by
      cases tag <;> simp [htags, hflag, Outstanding.count] at hpossible ⊢
    subst htag
    simp only [step, proceed, hstate]
    exact ⟨horder, hopen,
      .completed rfl (by simp [htags, hflag, Outstanding.take, releaseReference]) hfinish hpending
      hproducer⟩
  | completed hstate htags => cases tag <;> simp [htags, Outstanding.count] at hpossible

theorem complete_not_delivers {call : Call} {tag : Tag}
    (h : call.Steady) (hpossible : 0 < call.outstanding.count tag)
    (hdisorderly : ¬call.Orderly (.complete tag)) : ¬(call.step (.complete tag)).Delivers := by
  obtain ⟨horder, hopen, hphase⟩ := h
  cases hphase with
  | requesting hstate => exact absurd ⟨by simp [hstate], by simp [hstate]⟩ hdisorderly
  | waiting hstate => exact absurd ⟨by simp [hstate], by simp [hstate]⟩ hdisorderly
  | overtaken hstate => exact absurd ⟨by simp [hstate], by simp [hstate]⟩ hdisorderly
  | writing hstate htags hfinish hreleases =>
    have htag : tag = .alarm := by
      by_contra hother
      exact hdisorderly ⟨fun _ halarm => absurd halarm hother, by simp [hstate]⟩
    subst htag
    have hbusy : ¬(call.pendingEvents = [] ∧ call.producerComplete = false) := by
      intro hidle
      exact hdisorderly ⟨fun _ _ => hidle, by simp [hstate]⟩
    simp only [step, proceed, hstate, handleWriteComplete_eq_advance]
    exact advance_not_delivers (by simp [htags, Outstanding.take]) hbusy
  | finishing hstate htags hfinish hpending hproducer hreleases =>
    have halarms : call.outstanding.alarms ≠ 0 := by
      intro hnone
      exact hdisorderly ⟨by simp [hstate], fun _ => hnone⟩
    -- One of the two tags is returned and releases the reference, and the other is left.
    intro hdelivers
    have hreleased := hdelivers.releasedLast
    simp only [step, proceed, hstate, releaseReference] at hreleased
    have htotal := hreleased (by omega)
    simp only [htags] at halarms htotal hpossible
    cases tag <;> simp only [Outstanding.count, Outstanding.take, Outstanding.total]
      at htotal hpossible <;> omega
  | completed hstate => exact absurd ⟨by simp [hstate], by simp [hstate]⟩ hdisorderly

/-- In every run, all events are delivered once and in order, with one operation at a time, just
when the queue returns no alarm in place of a write that has something after it, and no alarm is
left behind by `Finish`. -/
theorem delivers_throughout_iff (actions : List Action)
    (hrun : Meets step Possible initial actions) :
    Throughout step Delivers initial actions ↔ Meets step Orderly initial actions := by
  have hkeeps : ∀ (call : Call) (action : Action), call.Steady → call.Possible action →
      call.Orderly action → (call.step action).Steady := by
    intro call action hsteady hpossible horderly
    cases action with
    | enqueueEvent event => exact enqueueEvent_steady hsteady hpossible.1 hpossible.2 event
    | markProducerComplete => exact markProducerComplete_steady hsteady hpossible.1 hpossible.2
    | complete tag => exact complete_steady hsteady hpossible horderly
  have hbreaks : ∀ (call : Call) (action : Action), call.Steady → call.Possible action →
      ¬call.Orderly action → ¬(call.step action).Delivers := by
    intro call action hsteady hpossible hdisorderly
    cases action with
    | enqueueEvent event => exact absurd trivial hdisorderly
    | markProducerComplete => exact absurd trivial hdisorderly
    | complete tag => exact complete_not_delivers hsteady hpossible hdisorderly
  exact throughout_iff_meets (fun _ => Steady.delivers) hkeeps hbreaks hrun initial_steady

/-- The producer waits for the alarms of its events. -/
def patientRun : List Action :=
  [.complete .request, .enqueueEvent {}, .complete .alarm, .complete .write, .markProducerComplete,
    .complete .alarm, .complete .finish]

theorem patientRun_delivers :
    Meets step Possible initial patientRun ∧ Throughout step Delivers initial patientRun := by
  have hrun : Meets step Possible initial patientRun := by decide
  exact ⟨hrun, (delivers_throughout_iff patientRun hrun).mpr (by decide)⟩

/-- A second event is produced while the first is written, and its alarm is returned first. -/
def hastyRun : List Action :=
  [.complete .request, .enqueueEvent {}, .complete .alarm, .enqueueEvent {}, .complete .alarm]

/-- Two writes are outstanding at the end of the run. -/
theorem hastyRun_not_delivers :
    Meets step Possible initial hastyRun ∧ ¬Throughout step Delivers initial hastyRun := by
  constructor
  · decide
  · rintro ⟨-, -, -, -, -, hlast⟩
    exact absurd hlast.oneOperation (by decide)

end Call

end TaskOrchestrator.Grpc
