import TaskOrchestrator.Protocol.StreamingCall

/-!
# A streaming call from end to end

`StreamingClientCall`, the stream state that it shares with the generator of its consumer, and the
producer and the call object of the server at the other end. The critical sections of each are steps
and interleave in any order; the client handles a completion in one step, because what its consumer
could do in between commutes with the rest of it. The transport hands the events that were written
to the client in their order, may break off at any time, and reports success only when the server
has finished the call and everything written was read. An object of the server that gets a tag back
after its last reference was released is left as it is.
-/

namespace TaskOrchestrator.Grpc

open Library Protocol

set_option autoImplicit false

/-- `AsyncClientStreamState`. The callback is `TryCancel` of the call's context. -/
structure StreamState where
  pendingEvents : List WorkflowEvent := []
  cancelCallback : Bool := false
  closed : Bool := false
  cancelRequested : Bool := false

namespace StreamState

def pushEvent (state : StreamState) (event : WorkflowEvent) : StreamState :=
  if state.closed then state else { state with pendingEvents := state.pendingEvents ++ [event] }

def close (state : StreamState) : StreamState :=
  { state with closed := true, cancelCallback := false }

def setCancelCallback (state : StreamState) : StreamState :=
  if state.closed then state
  else if state.cancelRequested then state
  else { state with cancelCallback := true }

def clearCancelCallback (state : StreamState) : StreamState :=
  { state with cancelCallback := false }

def requestCancel (state : StreamState) : StreamState :=
  if state.closed || state.cancelRequested then state else { state with cancelRequested := true }

end StreamState

def makeTransportErrorResponse (errorMessage : String) : RuntimeApiResponse where
  ok := false
  result := { ok := false, errorMessage := errorMessage }
  errorMessage := errorMessage

def makeTransportErrorEvent (workflowId : WorkflowId) (detail : String) : WorkflowEvent where
  type := .requestRejected
  workflowId := workflowId
  detail := detail
  response := some (makeTransportErrorResponse detail)

inductive ClientState where
  | starting
  | reading
  | finishing
  | completed
  deriving DecidableEq

/-- The operations of the client whose completion its queue reports. -/
inductive ClientTag where
  | startCall
  | read
  | finish
  deriving DecidableEq

def ClientTag.stateOf : ClientTag → ClientState
  | .startCall => .starting
  | .read => .reading
  | .finish => .finishing

structure Status where
  ok : Bool := true
  errorMessage : String := ""

/-- The object with the operations that are outstanding. `deletions` counts how often it was
deleted. -/
structure ClientCall where
  workflowId : WorkflowId
  state : ClientState := .starting
  streamState : StreamState := StreamState.setCancelCallback {}
  readEvent : WorkflowEvent := {}
  status : Status := {}
  outstanding : List ClientTag := []
  deletions : Nat := 0

namespace ClientCall

def pushError (call : ClientCall) (detail : String) : ClientCall :=
  { call with
    streamState := call.streamState.pushEvent (makeTransportErrorEvent call.workflowId detail) }

def finishAndDelete (call : ClientCall) : ClientCall :=
  { call with
    streamState := call.streamState.clearCancelCallback.close
    state := .completed
    deletions := call.deletions + 1 }

def issue (call : ClientCall) (tag : ClientTag) : ClientCall :=
  { call with outstanding := call.outstanding ++ [tag] }

/-- `start`; the reader may not be there. -/
def start (call : ClientCall) (reader : Bool) : ClientCall :=
  if reader = false then
    finishAndDelete (call.pushError "gRPC transport failed: streaming reader is not initialized.")
  else issue { call with state := .starting } .startCall

def complete (call : ClientCall) (ok : Bool) : ClientCall :=
  match call.state with
  | .starting =>
    if ok = false then
      finishAndDelete
        (if call.streamState.cancelRequested then call
          else call.pushError "gRPC transport failed: asynchronous stream start failed.")
    else issue { call with state := .reading } .read
  | .reading =>
    if ok then
      issue
        { call with streamState := call.streamState.pushEvent call.readEvent, readEvent := {} }
          .read
    else issue { call with state := .finishing } .finish
  | .finishing =>
    finishAndDelete
      (if !ok && !call.streamState.cancelRequested then
        call.pushError "gRPC transport failed: asynchronous completion queue shutdown."
      else if ok && !call.status.ok && !call.streamState.cancelRequested then
        call.pushError ("gRPC transport failed: " ++ call.status.errorMessage)
      else call)
  | .completed => call.finishAndDelete

end ClientCall

inductive Consumer where
  | taking
  | ended
  | abandoned
  deriving DecidableEq

/-- `script` is what the stream of the service yields, with the error event of a stream that failed,
and `remaining` what is left of it. The producer has left its loop early when `broken`. -/
structure StreamingRpc where
  script : List WorkflowEvent
  remaining : List WorkflowEvent
  broken : Bool := false
  server : Call := {}
  started : Bool := false
  client : ClientCall
  received : List WorkflowEvent := []
  consumer : Consumer := .taking
  consumed : List WorkflowEvent := []

namespace StreamingRpc

inductive Action where
  /-- The next step of `produce_events`. -/
  | produce
  | serverComplete (tag : Tag) (ok : Bool)
  | start (reader : Bool)
  | startComplete (ok : Bool)
  /-- An event was read, or there is none to read any more. -/
  | readComplete (event : Option WorkflowEvent)
  | finishComplete (ok : Bool) (status : Status)
  /-- The consumer resumes the generator. -/
  | next
  /-- The consumer destroys the generator. -/
  | abandon

def produce (rpc : StreamingRpc) : StreamingRpc :=
  match rpc.remaining with
  | [] => { rpc with server := rpc.server.markProducerComplete }
  | event :: rest =>
    if rpc.broken then { rpc with server := rpc.server.markProducerComplete }
    else if rpc.server.clientClosed then { rpc with broken := true }
    else { rpc with remaining := rest, server := rpc.server.enqueueEvent event }

/-- The operation of the client is complete, with what the transport has filled in. -/
def completeClient (rpc : StreamingRpc) (tag : ClientTag) (ok : Bool)
    (filled : ClientCall → ClientCall) : StreamingRpc :=
  { rpc with client := ClientCall.complete (filled { rpc.client with
    outstanding := rpc.client.outstanding.erase tag }) ok }

/-- `wait_next` and the end of the generator, which asks to cancel when it is left. -/
def next (rpc : StreamingRpc) : StreamingRpc :=
  match rpc.client.streamState.pendingEvents with
  | event :: rest =>
    { rpc with
      client.streamState.pendingEvents := rest
      consumed := rpc.consumed ++ [event] }
  | [] =>
    { rpc with
      client.streamState := rpc.client.streamState.requestCancel
      consumer := .ended }

def step (rpc : StreamingRpc) : Action → StreamingRpc
  | .produce => rpc.produce
  | .serverComplete tag ok =>
    { rpc with
      server := Call.proceed { rpc.server with outstanding := rpc.server.outstanding.take tag } ok }
  | .start reader => { rpc with started := true, client := rpc.client.start reader }
  | .startComplete ok => rpc.completeClient .startCall ok id
  | .readComplete (some event) =>
    completeClient { rpc with received := rpc.received ++ [event] } .read true fun call =>
      { call with readEvent := event }
  | .readComplete none => rpc.completeClient .read false id
  | .finishComplete ok status => rpc.completeClient .finish ok fun call =>
    { call with status := status }
  | .next => rpc.next
  | .abandon =>
    { rpc with
      client.streamState := rpc.client.streamState.requestCancel
      consumer := .abandoned }

/-- What can happen next. The generator runs once the call is started, and waits for an event or the
end; a status of success comes after everything that was written. -/
def Possible (rpc : StreamingRpc) : Action → Prop
  | .produce => rpc.server.state ≠ .requesting ∧ rpc.server.producerComplete = false
  | .serverComplete tag _ =>
    0 < rpc.server.outstanding.count tag ∧ (tag = .request → rpc.started = true)
  | .start _ => rpc.started = false
  | .startComplete _ => .startCall ∈ rpc.client.outstanding
  | .readComplete (some event) =>
    .read ∈ rpc.client.outstanding ∧ rpc.server.written[rpc.received.length]? = some event
  | .readComplete none => .read ∈ rpc.client.outstanding
  | .finishComplete ok status =>
    .finish ∈ rpc.client.outstanding ∧
      (ok = true → status.ok = true → rpc.server.finishIssued = true ∧
        rpc.received = rpc.server.written)
  | .next =>
    rpc.started = true ∧ rpc.consumer = .taking ∧
      (rpc.client.streamState.closed = true ∨ rpc.client.streamState.pendingEvents ≠ [])
  | .abandon => rpc.started = true ∧ rpc.consumer = .taking

instance (rpc : StreamingRpc) : (action : Action) → Decidable (rpc.Possible action)
  | .produce => inferInstanceAs (Decidable (_ ∧ _))
  | .serverComplete _ _ => inferInstanceAs (Decidable (_ ∧ (_ → _)))
  | .start _ => inferInstanceAs (Decidable (_ = _))
  | .startComplete _ => inferInstanceAs (Decidable (_ ∈ _))
  | .readComplete (some _) => inferInstanceAs (Decidable (_ ∈ _ ∧ _ = _))
  | .readComplete none => inferInstanceAs (Decidable (_ ∈ _))
  | .finishComplete _ _ => inferInstanceAs (Decidable (_ ∈ _ ∧ (_ → _ → _ ∧ _)))
  | .next => inferInstanceAs (Decidable (_ ∧ _ ∧ (_ ∨ _ ≠ _)))
  | .abandon => inferInstanceAs (Decidable (_ ∧ _))

def initial (workflowId : WorkflowId) (script : List WorkflowEvent) : StreamingRpc :=
  { script := script, remaining := script, client := { workflowId := workflowId } }

structure Delivers (rpc : StreamingRpc) : Prop where
  genuine : rpc.received <+: rpc.script
  /-- What was read is yielded in order, and at most one error event after it. -/
  inOrder : ∃ errors, errors.length ≤ 1 ∧
    rpc.consumed ++ rpc.client.streamState.pendingEvents = rpc.received ++ errors
  /-- One operation is outstanding until the object is deleted, and none is then. -/
  oneOperation : rpc.started = true → rpc.client.outstanding.length + rpc.client.deletions = 1
  awake : rpc.client.deletions = 1 → rpc.client.streamState.closed = true
  /-- A stream that ends without an error event was yielded completely. -/
  complete : rpc.consumer = .ended → rpc.consumed = rpc.script ∨
    ∃ detail, rpc.consumed = rpc.received ++ [makeTransportErrorEvent rpc.client.workflowId detail]

end StreamingRpc

/-- What the call object of the server keeps, however its tags come back. -/
structure Call.Holds (call : Call) : Prop where
  inOrder : call.clientClosed = false → call.written ++ call.pendingEvents = call.produced
  closed : call.clientClosed = true → call.written <+: call.produced ∧ call.state = .completed
  finished : call.finishIssued = true → call.producerComplete = true ∧ call.pendingEvents = [] ∧
    call.clientClosed = false ∧ (call.state = .finishing ∨ call.state = .completed)

namespace Call

variable {call : Call}

theorem initial_holds :
    initial.Holds := ⟨fun _ => rfl, fun h => Bool.noConfusion h, fun h => Bool.noConfusion h⟩

theorem Holds.of_data (h : call.Holds) {other : Call}
    (hpending : other.pendingEvents = call.pendingEvents) (hwritten : other.written = call.written)
    (hproduced : other.produced = call.produced) (hclosed : other.clientClosed = call.clientClosed)
    (hfinish : other.finishIssued = call.finishIssued)
    (hproducer : call.producerComplete = true → other.producerComplete = true)
    (hstate : call.state = .finishing ∨ call.state = .completed →
      other.state = call.state ∨ other.state = .completed) :
    other.Holds where
  inOrder hopen := by
    rw [hpending, hwritten, hproduced]
    exact h.inOrder (hclosed.symm.trans hopen)
  closed hgone := by
    obtain ⟨hstart, hcompleted⟩ := h.closed (hclosed.symm.trans hgone)
    rw [hwritten, hproduced]
    refine ⟨hstart, ?_⟩
    rcases hstate (Or.inr hcompleted) with hsame | hdone
    · exact hsame.trans hcompleted
    · exact hdone
  finished hissued := by
    obtain ⟨hcomplete, hempty, hopen, hlast⟩ := h.finished (hfinish.symm.trans hissued)
    refine ⟨hproducer hcomplete, hpending.trans hempty, hclosed.trans hopen, ?_⟩
    rcases hstate hlast with hsame | hdone
    · rw [hsame]
      exact hlast
    · exact Or.inr hdone

theorem scheduleNotificationLocked_holds (h : call.Holds) :
    call.scheduleNotificationLocked.Holds := by
  unfold scheduleNotificationLocked
  split_ifs
  · exact h
  · exact h.of_data rfl rfl rfl rfl rfl (fun hdone => hdone) fun _ => Or.inl rfl

theorem enqueueEvent_holds (h : call.Holds) (hrunning : call.producerComplete = false)
    (event : WorkflowEvent) :
    (call.enqueueEvent event).Holds := by
  unfold enqueueEvent
  split_ifs with hclosed
  · exact h
  · have hopen : call.clientClosed = false := Bool.eq_false_iff.mpr hclosed
    apply scheduleNotificationLocked_holds
    refine ⟨fun _ => ?_, fun hgone => absurd hgone hclosed, fun hissued => ?_⟩
    · change call.written ++ (call.pendingEvents ++ [event]) = call.produced ++ [event]
      rw [← List.append_assoc, h.inOrder hopen]
    · have hcomplete := (h.finished hissued).1
      exact absurd (hrunning.symm.trans hcomplete) (by simp)

theorem markProducerComplete_holds (h : call.Holds) : call.markProducerComplete.Holds := by
  apply scheduleNotificationLocked_holds
  exact h.of_data rfl rfl rfl rfl rfl (fun _ => rfl) fun _ => Or.inl rfl

theorem advance_holds (h : call.Holds) (hopen : call.clientClosed = false)
    (hfinish : call.finishIssued = false) :
    call.advance.Holds ∧ call.written <+: call.advance.written := by
  have horder := h.inOrder hopen
  unfold advance
  split
  · rename_i event rest hpending
    refine ⟨⟨fun _ => ?_, fun hgone => ?_, fun hissued => ?_⟩, List.prefix_append _ _⟩
    · change (call.written ++ [event]) ++ rest = call.produced
      rw [← horder, hpending, List.append_assoc, List.singleton_append]
    · exact absurd (hopen.symm.trans hgone) (by simp)
    · exact absurd (hfinish.symm.trans hissued) (by simp)
  · rename_i hpending
    split_ifs with hproducer
    · refine ⟨⟨fun _ => ?_, fun hgone => ?_, fun _ => ⟨hproducer, hpending, hopen, Or.inl rfl⟩⟩,
        List.prefix_rfl⟩
      · exact horder
      · exact absurd (hopen.symm.trans hgone) (by simp)
    · refine ⟨⟨fun _ => horder, fun hgone => ?_, fun hissued => ?_⟩, List.prefix_rfl⟩
      · exact absurd (hopen.symm.trans hgone) (by simp)
      · exact absurd (hfinish.symm.trans hissued) (by simp)

/-- Before the call is finished or completed, its client is there and `Finish` was not issued. -/
theorem Holds.running (h : call.Holds) (hstate : call.state ≠ .finishing)
    (hcompleted : call.state ≠ .completed) :
    call.clientClosed = false ∧ call.finishIssued = false := by
  constructor
  · cases hclosed : call.clientClosed with
    | false => rfl
    | true => exact absurd (h.closed hclosed).2 hcompleted
  · cases hissued : call.finishIssued with
    | false => rfl
    | true =>
      rcases (h.finished hissued).2.2.2 with hfinishing | hdone
      · exact absurd hfinishing hstate
      · exact absurd hdone hcompleted

theorem proceed_holds (h : call.Holds) (ok : Bool) :
    (call.proceed ok).Holds ∧ call.written <+: (call.proceed ok).written := by
  have hrelease : call.releaseReference.Holds ∧ call.written <+: call.releaseReference.written :=
    ⟨h.of_data rfl rfl rfl rfl rfl (fun hdone => hdone) fun _ => Or.inl rfl, List.prefix_rfl⟩
  have hcompleted : (releaseReference { call with state := .completed }).Holds :=
    h.of_data rfl rfl rfl rfl rfl (fun hdone => hdone) fun _ => Or.inr rfl
  cases hstate : call.state with
  | requesting =>
    simp only [proceed, hstate]
    split_ifs
    · exact hrelease
    · refine ⟨h.of_data rfl rfl rfl rfl rfl (fun hdone => hdone) fun hlast => ?_, List.prefix_rfl⟩
      rw [hstate] at hlast
      exact absurd hlast (by simp)
  | waitingForEvent =>
    obtain ⟨hopen, hfinish⟩ := h.running (by simp [hstate]) (by simp [hstate])
    simp only [proceed, hstate]
    split_ifs
    · exact ⟨hcompleted, List.prefix_rfl⟩
    · rw [handleNotification_eq_advance hstate]
      have hflag : Holds { call with notificationPending := false } :=
        h.of_data rfl rfl rfl rfl rfl (fun hdone => hdone) fun _ => Or.inl rfl
      exact advance_holds hflag hopen hfinish
  | writing =>
    obtain ⟨hopen, hfinish⟩ := h.running (by simp [hstate]) (by simp [hstate])
    simp only [proceed, hstate]
    cases ok with
    | true =>
      rw [handleWriteComplete_eq_advance]
      exact advance_holds h hopen hfinish
    | false =>
      refine ⟨⟨fun hgone => ?_, fun _ => ⟨?_, rfl⟩, fun hissued => ?_⟩, List.prefix_rfl⟩
      · exact Bool.noConfusion hgone
      · change call.written <+: call.produced
        rw [← h.inOrder hopen]
        exact List.prefix_append _ _
      · exact absurd (hfinish.symm.trans hissued) (by simp)
  | finishing =>
    simp only [proceed, hstate]
    exact ⟨hcompleted, List.prefix_rfl⟩
  | completed =>
    simp only [proceed, hstate]
    exact hrelease

end Call

namespace StreamingRpc

variable {rpc : StreamingRpc}

/-- The producer has enqueued the beginning of the stream, and all of it unless the client went
away. -/
structure Produces (rpc : StreamingRpc) : Prop where
  holds : rpc.server.Holds
  script : rpc.server.produced ++ rpc.remaining = rpc.script
  complete : rpc.server.producerComplete = true → rpc.remaining = [] ∨ rpc.broken = true
  broken : rpc.broken = true → rpc.server.clientClosed = true

theorem Produces.finished (h : rpc.Produces) (hfinish : rpc.server.finishIssued = true) :
    rpc.server.written = rpc.script := by
  obtain ⟨hcomplete, hpending, hopen, -⟩ := h.holds.finished hfinish
  have hall : rpc.remaining = [] := by
    rcases h.complete hcomplete with hempty | hbroken
    · exact hempty
    · exact absurd (hopen.symm.trans (h.broken hbroken)) (by simp)
  have horder := h.holds.inOrder hopen
  rw [hpending, List.append_nil] at horder
  rw [horder, ← h.script, hall, List.append_nil]

theorem Produces.written_prefix (h : rpc.Produces) : rpc.server.written <+: rpc.script := by
  rw [← h.script]
  cases hclosed : rpc.server.clientClosed with
  | false =>
    rw [← h.holds.inOrder hclosed, List.append_assoc]
    exact List.prefix_append _ _
  | true => exact (h.holds.closed hclosed).1.trans (List.prefix_append _ _)

theorem enqueueEvent_data {call : Call} (hopen : call.clientClosed = false)
    (event : WorkflowEvent) :
    (call.enqueueEvent event).produced = call.produced ++ [event] ∧
    (call.enqueueEvent event).written = call.written ∧
      (call.enqueueEvent event).clientClosed = false ∧
      (call.enqueueEvent event).producerComplete = call.producerComplete := by
  unfold Call.enqueueEvent Call.scheduleNotificationLocked
  rw [if_neg (by simp [hopen])]
  split_ifs
  · exact ⟨rfl, rfl, hopen, rfl⟩
  · exact ⟨rfl, rfl, hopen, rfl⟩

theorem markProducerComplete_data (call : Call) :
    call.markProducerComplete.produced = call.produced ∧
    call.markProducerComplete.written = call.written ∧
      call.markProducerComplete.clientClosed = call.clientClosed := by
  unfold Call.markProducerComplete Call.scheduleNotificationLocked
  split_ifs
  · exact ⟨rfl, rfl, rfl⟩
  · exact ⟨rfl, rfl, rfl⟩

theorem Produces.markComplete (h : rpc.Produces) (hdone : rpc.remaining = [] ∨ rpc.broken = true) :
    Produces { rpc with server := rpc.server.markProducerComplete } := by
  obtain ⟨hproduced, -, hclosed⟩ := markProducerComplete_data rpc.server
  refine ⟨Call.markProducerComplete_holds h.holds, ?_, fun _ => hdone, fun hbroken =>
    hclosed.trans (h.broken hbroken)⟩
  change rpc.server.markProducerComplete.produced ++ rpc.remaining = rpc.script
  rw [hproduced]
  exact h.script

theorem Produces.produce (h : rpc.Produces) (hrunning : rpc.server.producerComplete = false) :
    rpc.produce.Produces ∧ rpc.server.written <+: rpc.produce.server.written := by
  have hmarked : rpc.server.written <+: rpc.server.markProducerComplete.written :=
    ⟨[], (List.append_nil _).trans (markProducerComplete_data rpc.server).2.1.symm⟩
  unfold StreamingRpc.produce
  split
  · rename_i hempty
    exact ⟨h.markComplete (Or.inl hempty), hmarked⟩
  · rename_i event rest hremaining
    split_ifs with hbroken hclosed
    · exact ⟨h.markComplete (Or.inr hbroken), hmarked⟩
    · exact ⟨⟨h.holds, h.script, fun hdone => Or.inr rfl, fun _ => hclosed⟩, List.prefix_rfl⟩
    · have hopen : rpc.server.clientClosed = false := Bool.eq_false_iff.mpr hclosed
      obtain ⟨hproduced, hwritten, -, hproducer⟩ := enqueueEvent_data hopen event
      refine ⟨⟨Call.enqueueEvent_holds h.holds hrunning event, ?_, fun hdone =>
        ?_, fun hgone => ?_⟩, ?_⟩
      · change (rpc.server.enqueueEvent event).produced ++ rest = rpc.script
        rw [hproduced, List.append_assoc, List.singleton_append, ← hremaining]
        exact h.script
      · have hnone : (rpc.server.enqueueEvent event).producerComplete = false :=
          hproducer.trans hrunning
        exact absurd (hnone.symm.trans hdone) (by simp)
      · exact absurd hgone hbroken
      · exact ⟨[], (List.append_nil _).trans hwritten.symm⟩

theorem advance_data (call : Call) :
    call.advance.produced = call.produced ∧ call.advance.producerComplete = call.producerComplete ∧
      call.advance.clientClosed = call.clientClosed := by
  unfold Call.advance
  split
  · exact ⟨rfl, rfl, rfl⟩
  · split_ifs
    · exact ⟨rfl, rfl, rfl⟩
    · exact ⟨rfl, rfl, rfl⟩

theorem proceed_data (call : Call) (ok : Bool) :
    (call.proceed ok).produced = call.produced ∧
    (call.proceed ok).producerComplete = call.producerComplete ∧
      (call.clientClosed = true → (call.proceed ok).clientClosed = true) := by
  cases hstate : call.state with
  | requesting =>
    simp only [Call.proceed, hstate]
    split_ifs
    · exact ⟨rfl, rfl, fun h => h⟩
    · exact ⟨rfl, rfl, fun h => h⟩
  | waitingForEvent =>
    simp only [Call.proceed, hstate]
    split_ifs
    · exact ⟨rfl, rfl, fun h => h⟩
    · rw [Call.handleNotification_eq_advance hstate]
      obtain ⟨hproduced, hproducer, hclosed⟩ :=
        advance_data { call with notificationPending := false }
      exact ⟨hproduced, hproducer, fun h => hclosed.trans h⟩
  | writing =>
    simp only [Call.proceed, hstate]
    cases ok with
    | true =>
      rw [Call.handleWriteComplete_eq_advance]
      obtain ⟨hproduced, hproducer, hclosed⟩ := advance_data call
      exact ⟨hproduced, hproducer, fun h => hclosed.trans h⟩
    | false => exact ⟨rfl, rfl, fun _ => rfl⟩
  | finishing =>
    simp only [Call.proceed, hstate]
    exact ⟨rfl, rfl, fun h => h⟩
  | completed =>
    simp only [Call.proceed, hstate]
    exact ⟨rfl, rfl, fun h => h⟩

theorem Produces.serverComplete (h : rpc.Produces) (tag : Tag) (ok : Bool) :
    (rpc.step (.serverComplete tag ok)).Produces ∧
      rpc.server.written <+: (rpc.step (.serverComplete tag ok)).server.written := by
  have htaken : Call.Holds { rpc.server with outstanding := rpc.server.outstanding.take tag } :=
    h.holds.of_data rfl rfl rfl rfl rfl (fun hdone => hdone) fun _ => Or.inl rfl
  obtain ⟨hholds, hwritten⟩ := Call.proceed_holds htaken ok
  obtain ⟨hproduced, hproducer, hclosed⟩ :=
    proceed_data { rpc.server with outstanding := rpc.server.outstanding.take tag } ok
  refine ⟨⟨hholds, ?_, fun hdone => h.complete (hproducer.symm.trans hdone), fun hbroken => hclosed
    (h.broken hbroken)⟩, hwritten⟩
  change (Call.proceed
    { rpc.server with outstanding := rpc.server.outstanding.take tag } ok).produced ++
    rpc.remaining = _
  rw [hproduced]
  exact h.script

/-- What the consumer has got and will get next. -/
def delivered (rpc : StreamingRpc) : List WorkflowEvent :=
  rpc.consumed ++ rpc.client.streamState.pendingEvents

/-- How a stream was closed: completely, with an error event, or after it was abandoned. -/
def Outcome (rpc : StreamingRpc) : Prop :=
  (rpc.delivered = rpc.received ∧ rpc.received = rpc.script) ∨
    (∃ detail, rpc.delivered = rpc.received ++
      [makeTransportErrorEvent rpc.client.workflowId detail]) ∨
    (rpc.delivered = rpc.received ∧ rpc.client.streamState.cancelRequested = true)

inductive ClientPhase (rpc : StreamingRpc) : Prop where
  | unstarted (hstarted : rpc.started = false) (htags : rpc.client.outstanding = [])
    (hdeletions : rpc.client.deletions = 0)
      (hclosed : rpc.client.streamState.closed = false) (hdelivered : rpc.delivered = rpc.received)
      (hcancel : rpc.client.streamState.cancelRequested = false)
  | running (tag : ClientTag) (hstarted : rpc.started = true)
    (htags : rpc.client.outstanding = [tag])
      (hstate : rpc.client.state = tag.stateOf)
      (hdeletions : rpc.client.deletions = 0) (hclosed : rpc.client.streamState.closed = false)
      (hdelivered : rpc.delivered = rpc.received)
  | deleted (hstarted : rpc.started = true) (htags : rpc.client.outstanding = [])
    (hdeletions : rpc.client.deletions = 1)
      (hclosed : rpc.client.streamState.closed = true) (houtcome : rpc.Outcome)

structure Sound (rpc : StreamingRpc) : Prop where
  produces : rpc.Produces
  received : rpc.received <+: rpc.server.written
  phase : rpc.ClientPhase
  cancelled : rpc.client.streamState.cancelRequested = true → rpc.consumer = .abandoned
  ended : rpc.consumer = .ended → rpc.client.streamState.closed = true ∧
    rpc.client.streamState.pendingEvents = []

theorem initial_sound (workflowId : WorkflowId) (script : List WorkflowEvent) :
    (initial workflowId script).Sound where
  produces := ⟨Call.initial_holds, rfl, fun h => Bool.noConfusion h, fun h => Bool.noConfusion h⟩
  received := List.prefix_rfl
  phase := .unstarted rfl rfl rfl rfl rfl rfl
  cancelled h := Bool.noConfusion h
  ended h := by cases h

theorem Sound.delivers (h : rpc.Sound) : rpc.Delivers where
  genuine := h.received.trans h.produces.written_prefix
  inOrder := by
    cases h.phase with
    | unstarted _ _ _ _ hdelivered =>
      exact ⟨[], Nat.zero_le _, by rw [List.append_nil]; exact hdelivered⟩
    | running _ _ _ _ _ _ hdelivered =>
      exact ⟨[], Nat.zero_le _, by rw [List.append_nil]; exact hdelivered⟩
    | deleted _ _ _ _ houtcome =>
      rcases houtcome with ⟨hall, -⟩ | ⟨detail, herror⟩ | ⟨hpart, -⟩
      · exact ⟨[], Nat.zero_le _, by rw [List.append_nil]; exact hall⟩
      · exact ⟨_, Nat.le_refl _, herror⟩
      · exact ⟨[], Nat.zero_le _, by rw [List.append_nil]; exact hpart⟩
  oneOperation hstarted := by
    cases h.phase with
    | unstarted hnot => exact absurd (hstarted.symm.trans hnot) (by simp)
    | running _ _ htags _ hdeletions => rw [htags, hdeletions]; rfl
    | deleted _ htags hdeletions => rw [htags, hdeletions]; rfl
  awake hdeleted := by
    cases h.phase with
    | unstarted _ _ hdeletions => exact absurd (hdeleted.symm.trans hdeletions) (by simp)
    | running _ _ _ _ hdeletions => exact absurd (hdeleted.symm.trans hdeletions) (by simp)
    | deleted _ _ _ hclosed => exact hclosed
  complete hended := by
    obtain ⟨hclosed, hpending⟩ := h.ended hended
    have hconsumed : rpc.delivered = rpc.consumed := by rw [delivered, hpending, List.append_nil]
    cases h.phase with
    | unstarted _ _ _ hopen => exact absurd (hopen.symm.trans hclosed) (by simp)
    | running _ _ _ _ _ hopen => exact absurd (hopen.symm.trans hclosed) (by simp)
    | deleted _ _ _ _ houtcome =>
      rcases houtcome with ⟨hall, hscript⟩ | ⟨detail, herror⟩ | ⟨-, hcancel⟩
      · exact Or.inl (hconsumed.symm.trans (hall.trans hscript))
      · exact Or.inr ⟨detail, hconsumed.symm.trans herror⟩
      · exact absurd (hended.symm.trans (h.cancelled hcancel)) (by simp)

theorem ClientPhase.of_data {other : StreamingRpc} (h : rpc.ClientPhase)
    (hscript : other.script = rpc.script) (hstarted : other.started = rpc.started)
    (hreceived : other.received = rpc.received) (hdelivered : other.delivered = rpc.delivered)
    (hworkflow : other.client.workflowId = rpc.client.workflowId)
    (hstate : other.client.state = rpc.client.state)
    (htags : other.client.outstanding = rpc.client.outstanding)
    (hdeletions : other.client.deletions = rpc.client.deletions)
    (hclosed : other.client.streamState.closed = rpc.client.streamState.closed)
    (hcancel : other.client.streamState.cancelRequested = rpc.client.streamState.cancelRequested ∨
      rpc.started = true ∧ other.client.streamState.cancelRequested = true) :
      other.ClientPhase := by
  cases h with
  | unstarted hnot hnone hzero hopen hall hquiet =>
    refine .unstarted (hstarted.trans hnot) (htags.trans hnone) (hdeletions.trans hzero)
      (hclosed.trans hopen) ?_ ?_
    · rw [hdelivered, hreceived]
      exact hall
    · rcases hcancel with hsame | ⟨hbegun, -⟩
      · exact hsame.trans hquiet
      · exact absurd (hbegun.symm.trans hnot) (by simp)
  | running tag hbegun hone hphase hzero hopen hall =>
    refine .running tag (hstarted.trans hbegun) (htags.trans hone) (hstate.trans hphase)
      (hdeletions.trans hzero) (hclosed.trans hopen) ?_
    rw [hdelivered, hreceived]
    exact hall
  | deleted hbegun hnone hdeleted hshut houtcome =>
    refine .deleted (hstarted.trans hbegun) (htags.trans hnone) (hdeletions.trans hdeleted)
      (hclosed.trans hshut) ?_
    unfold Outcome at houtcome ⊢
    rw [hdelivered, hreceived, hscript, hworkflow]
    rcases houtcome with hall | herror | ⟨hpart, hquiet⟩
    · exact Or.inl hall
    · exact Or.inr (Or.inl herror)
    · refine Or.inr (Or.inr ⟨hpart, ?_⟩)
      rcases hcancel with hsame | ⟨-, hasked⟩
      · exact hsame.trans hquiet
      · exact hasked

/-- The server goes on, and what it has written is not taken back. -/
theorem Sound.of_server (h : rpc.Sound) (remaining : List WorkflowEvent) (broken : Bool)
    (server : Call)
    (hproduces : Produces { rpc with remaining := remaining, broken := broken, server := server })
    (hwritten : rpc.server.written <+: server.written) :
    Sound { rpc with remaining := remaining, broken := broken, server := server } where
  produces := hproduces
  received := h.received.trans hwritten
  phase := h.phase.of_data rfl rfl rfl rfl rfl rfl rfl rfl rfl (Or.inl rfl)
  cancelled := h.cancelled
  ended := h.ended

theorem produce_eq (rpc : StreamingRpc) :
    rpc.produce = { rpc with
      remaining := rpc.produce.remaining
      broken := rpc.produce.broken
      server := rpc.produce.server } := by
  unfold produce
  split
  · rfl
  · split_ifs <;> rfl

theorem Sound.produce (h : rpc.Sound) (hrunning : rpc.server.producerComplete = false) :
    rpc.produce.Sound := by
  obtain ⟨hproduces, hwritten⟩ := h.produces.produce hrunning
  rw [produce_eq] at hproduces ⊢
  exact h.of_server _ _ _ hproduces hwritten

theorem Sound.serverComplete (h : rpc.Sound) (tag : Tag) (ok : Bool) :
    (rpc.step (.serverComplete tag ok)).Sound := by
  obtain ⟨hproduces, hwritten⟩ := h.produces.serverComplete tag ok
  exact h.of_server _ _ _ hproduces hwritten

/-- The client has got its operation back and has not issued the next one. -/
structure Resumed (rpc : StreamingRpc) : Prop where
  started : rpc.started = true
  noTags : rpc.client.outstanding = []
  alive : rpc.client.deletions = 0
  isOpen : rpc.client.streamState.closed = false
  delivered : rpc.delivered = rpc.received

namespace Resumed

theorem issue (h : rpc.Resumed) (state : ClientState) (tag : ClientTag)
    (hstate : state = tag.stateOf) :
    ClientPhase { rpc with client := ClientCall.issue { rpc.client with state := state } tag } := by
  refine .running tag h.started ?_ hstate h.alive h.isOpen h.delivered
  change rpc.client.outstanding ++ [tag] = [tag]
  rw [h.noTags, List.nil_append]

theorem ends (h : rpc.Resumed) (houtcome : rpc.Outcome) :
    ClientPhase { rpc with client := rpc.client.finishAndDelete } := by
  refine .deleted h.started h.noTags ?_ rfl houtcome
  change rpc.client.deletions + 1 = 1
  rw [h.alive]

theorem pushEvent_pending (h : rpc.Resumed) (event : WorkflowEvent) :
    rpc.client.streamState.pushEvent event =
      { rpc.client.streamState with pendingEvents := rpc.client.streamState.pendingEvents ++
        [event] } := by
  unfold StreamState.pushEvent
  rw [if_neg (by simp [h.isOpen])]

theorem fails (h : rpc.Resumed) (detail : String) :
    ClientPhase { rpc with client := (rpc.client.pushError detail).finishAndDelete } := by
  have hpushed := h.pushEvent_pending (makeTransportErrorEvent rpc.client.workflowId detail)
  have hone : (rpc.client.pushError detail).deletions + 1 = 1 := by
    change rpc.client.deletions + 1 = 1
    rw [h.alive]
  refine .deleted h.started h.noTags hone rfl (Or.inr (Or.inl ⟨detail, ?_⟩))
  change rpc.consumed ++ (rpc.client.streamState.pushEvent _).pendingEvents = rpc.received ++ _
  rw [hpushed, ← h.delivered, StreamingRpc.delivered, List.append_assoc]
  rfl

theorem read (h : rpc.Resumed) (event : WorkflowEvent) :
    Resumed { rpc with
      received := rpc.received ++ [event]
      client := { rpc.client with
        streamState := rpc.client.streamState.pushEvent event, readEvent := {} } } := by
  have hpushed := h.pushEvent_pending event
  refine ⟨h.started, h.noTags, h.alive, ?_, ?_⟩
  · change (rpc.client.streamState.pushEvent event).closed = false
    rw [hpushed]
    exact h.isOpen
  · change rpc.consumed ++ (rpc.client.streamState.pushEvent event).pendingEvents =
      rpc.received ++ [event]
    rw [hpushed, ← h.delivered, StreamingRpc.delivered, List.append_assoc]

end Resumed

theorem Sound.resumed (h : rpc.Sound) {tag : ClientTag} (htag : tag ∈ rpc.client.outstanding) :
    Resumed { rpc with client.outstanding := rpc.client.outstanding.erase tag } ∧
      rpc.client.state = tag.stateOf := by
  cases h.phase with
  | unstarted _ htags => rw [htags] at htag; cases htag
  | running other hstarted htags hstate halive hopen hdelivered =>
    rw [htags, List.mem_singleton] at htag
    subst htag
    refine ⟨⟨hstarted, ?_, halive, hopen, hdelivered⟩, hstate⟩
    change rpc.client.outstanding.erase tag = []
    rw [htags, List.erase_cons_head]
  | deleted _ htags => rw [htags] at htag; cases htag

/-- The client's steps leave the server and the consumer alone. -/
theorem Sound.of_client (h : rpc.Sound) (hopen : rpc.client.streamState.closed = false)
    {started : Bool} {client : ClientCall} {received : List WorkflowEvent}
    (hreceived : received <+: rpc.server.written)
    (hcancel : client.streamState.cancelRequested = rpc.client.streamState.cancelRequested)
    (hphase : ClientPhase { rpc with started := started, client := client, received := received }) :
    Sound { rpc with started := started, client := client, received := received } where
  produces := ⟨h.produces.holds, h.produces.script, h.produces.complete, h.produces.broken⟩
  received := hreceived
  phase := hphase
  cancelled hasked := h.cancelled (hcancel.symm.trans hasked)
  ended hended := absurd (hopen.symm.trans (h.ended hended).1) (by simp)

theorem pushEvent_cancelRequested (state : StreamState) (event : WorkflowEvent) :
    (state.pushEvent event).cancelRequested = state.cancelRequested := by
  unfold StreamState.pushEvent
  split_ifs <;> rfl

theorem Sound.start (h : rpc.Sound) (hpossible : rpc.started = false) (reader : Bool) :
    (rpc.step (.start reader)).Sound := by
  cases h.phase with
  | unstarted _ htags halive hopen hdelivered =>
    have hresumed : Resumed { rpc with started := true } := ⟨rfl, htags, halive, hopen, hdelivered⟩
    simp only [step, ClientCall.start]
    split_ifs
    · refine h.of_client hopen h.received ?_ (hresumed.fails _)
      exact pushEvent_cancelRequested _ _
    · exact h.of_client hopen h.received rfl (hresumed.issue _ _ rfl)
  | running _ hstarted => exact absurd (hstarted.symm.trans hpossible) (by simp)
  | deleted hstarted => exact absurd (hstarted.symm.trans hpossible) (by simp)

theorem Sound.startComplete (h : rpc.Sound)
    (htag : .startCall ∈ rpc.client.outstanding) (ok : Bool) :
    (rpc.step (.startComplete ok)).Sound := by
  obtain ⟨hresumed, hstate⟩ := h.resumed htag
  simp only [step, completeClient, ClientCall.complete, id, hstate, ClientTag.stateOf]
  split_ifs with hfailed hcancelled
  · refine h.of_client hresumed.isOpen h.received rfl (hresumed.ends ?_)
    exact Or.inr (Or.inr ⟨hresumed.delivered, hcancelled⟩)
  · refine h.of_client hresumed.isOpen h.received ?_ (hresumed.fails _)
    exact pushEvent_cancelRequested _ _
  · exact h.of_client hresumed.isOpen h.received rfl (hresumed.issue _ _ rfl)

theorem Sound.readComplete (h : rpc.Sound)
    (htag : .read ∈ rpc.client.outstanding) {event : WorkflowEvent}
    (hnext : rpc.server.written[rpc.received.length]? = some event) :
    (rpc.step (.readComplete (some event))).Sound := by
  obtain ⟨hresumed, hstate⟩ := h.resumed htag
  have hreceived : rpc.received ++ [event] <+: rpc.server.written := by
    obtain ⟨later, hlater⟩ := h.received
    rw [← hlater, List.getElem?_append_right (Nat.le_refl _), Nat.sub_self] at hnext
    cases later with
    | nil => cases hnext
    | cons first rest =>
      cases hnext
      exact ⟨rest, by rw [← hlater, List.append_assoc, List.singleton_append]⟩
  simp only [step, completeClient, ClientCall.complete, hstate, ClientTag.stateOf, if_true]
  have hread := (hresumed.read event).issue .reading .read rfl
  refine h.of_client hresumed.isOpen hreceived ?_ ?_
  · exact pushEvent_cancelRequested _ _
  · exact hread

theorem Sound.readEnds (h : rpc.Sound) (htag : .read ∈ rpc.client.outstanding) :
    (rpc.step (.readComplete none)).Sound := by
  obtain ⟨hresumed, hstate⟩ := h.resumed htag
  simp only [step, completeClient, ClientCall.complete, id, hstate,
    ClientTag.stateOf, Bool.false_eq_true, if_false]
  exact h.of_client hresumed.isOpen h.received rfl (hresumed.issue _ _ rfl)

/-- The status tells whether everything was read, and otherwise an error event or the cancellation
does. -/
theorem Sound.finishComplete (h : rpc.Sound) (htag : .finish ∈ rpc.client.outstanding) {ok : Bool}
    {status : Status}
    (hsuccess : ok = true → status.ok = true →
      rpc.server.finishIssued = true ∧ rpc.received = rpc.server.written) :
    (rpc.step (.finishComplete ok status)).Sound := by
  obtain ⟨hresumed, hstate⟩ := h.resumed htag
  have hfilled : Resumed { rpc with client := { rpc.client with
      outstanding := rpc.client.outstanding.erase .finish, status := status } } :=
    ⟨hresumed.started, hresumed.noTags, hresumed.alive, hresumed.isOpen, hresumed.delivered⟩
  simp only [step, completeClient, ClientCall.complete, hstate, ClientTag.stateOf]
  split_ifs with hshutdown hfailed
  · refine h.of_client hresumed.isOpen h.received ?_ (hfilled.fails _)
    exact pushEvent_cancelRequested _ _
  · refine h.of_client hresumed.isOpen h.received ?_ (hfilled.fails _)
    exact pushEvent_cancelRequested _ _
  · refine h.of_client hresumed.isOpen h.received rfl (hfilled.ends ?_)
    cases hcancelled : rpc.client.streamState.cancelRequested with
    | true => exact Or.inr (Or.inr ⟨hfilled.delivered, hcancelled⟩)
    | false =>
      have hok : ok = true := by simpa [hcancelled] using hshutdown
      have hstatus : status.ok = true := by simpa [hcancelled, hok] using hfailed
      obtain ⟨hfinish, hall⟩ := hsuccess hok hstatus
      exact Or.inl ⟨hfilled.delivered, hall.trans (h.produces.finished hfinish)⟩

theorem Sound.next (h : rpc.Sound) (htaking : rpc.consumer = .taking)
    (hready : rpc.client.streamState.closed = true ∨ rpc.client.streamState.pendingEvents ≠ []) :
    rpc.next.Sound := by
  unfold StreamingRpc.next
  split
  · rename_i event rest hpending
    have hdelivered : (rpc.consumed ++ [event]) ++ rest = rpc.delivered := by
      rw [delivered, hpending, List.append_assoc, List.singleton_append]
    refine ⟨⟨h.produces.holds, h.produces.script, h.produces.complete, h.produces.broken⟩,
      h.received, ?_, h.cancelled, ?_⟩
    · exact h.phase.of_data rfl rfl rfl hdelivered rfl rfl rfl rfl rfl (Or.inl rfl)
    · intro hended
      exact absurd (htaking.symm.trans hended) (by simp)
  · rename_i hpending
    have hclosed : rpc.client.streamState.closed = true := by simpa [hpending] using hready
    have hquiet : rpc.client.streamState.requestCancel = rpc.client.streamState := by
      unfold StreamState.requestCancel
      rw [if_pos (by simp [hclosed])]
    rw [hquiet]
    refine ⟨⟨h.produces.holds, h.produces.script, h.produces.complete, h.produces.broken⟩,
      h.received, ?_, ?_, ?_⟩
    · exact h.phase.of_data rfl rfl rfl rfl rfl rfl rfl rfl rfl (Or.inl rfl)
    · intro hasked
      exact absurd (htaking.symm.trans (h.cancelled hasked)) (by simp)
    · exact fun _ => ⟨hclosed, hpending⟩

theorem requestCancel_data (state : StreamState) :
    state.requestCancel.pendingEvents = state.pendingEvents ∧
    state.requestCancel.closed = state.closed ∧
      (state.requestCancel.cancelRequested = state.cancelRequested ∨
        state.requestCancel.cancelRequested = true) := by
  unfold StreamState.requestCancel
  split_ifs
  · exact ⟨rfl, rfl, Or.inl rfl⟩
  · exact ⟨rfl, rfl, Or.inr rfl⟩

theorem Sound.abandon (h : rpc.Sound) (hstarted : rpc.started = true) :
    (rpc.step .abandon).Sound := by
  obtain ⟨hpending, hclosed, hcancel⟩ := requestCancel_data rpc.client.streamState
  have hdelivered : rpc.consumed ++ rpc.client.streamState.requestCancel.pendingEvents =
      rpc.delivered := by
    rw [hpending, delivered]
  refine ⟨⟨h.produces.holds, h.produces.script, h.produces.complete, h.produces.broken⟩,
    h.received, ?_, fun _ => rfl, ?_⟩
  · exact h.phase.of_data rfl rfl rfl hdelivered rfl rfl rfl rfl hclosed
      (hcancel.imp_right fun hasked => ⟨hstarted, hasked⟩)
  · intro hended
    cases hended

theorem Sound.step {action : Action} (h : rpc.Sound)
    (hpossible : rpc.Possible action) : (rpc.step action).Sound := by
  cases action with
  | produce => exact h.produce hpossible.2
  | serverComplete tag ok => exact h.serverComplete tag ok
  | start reader => exact h.start hpossible reader
  | startComplete ok => exact h.startComplete hpossible ok
  | readComplete event =>
    cases event with
    | none => exact h.readEnds hpossible
    | some event => exact h.readComplete hpossible.1 hpossible.2
  | finishComplete ok status => exact h.finishComplete hpossible.1 hpossible.2
  | next => exact h.next hpossible.2.1 hpossible.2.2
  | abandon => exact h.abandon hpossible.1

theorem step_script (rpc : StreamingRpc) (action : Action) :
    (rpc.step action).script = rpc.script := by
  cases action with
  | produce => rw [step, produce_eq]
  | next =>
    change rpc.next.script = rpc.script
    unfold StreamingRpc.next
    split
    · rfl
    · rfl
  | readComplete event => cases event <;> rfl
  | serverComplete _ _ | start _ | startComplete _ | finishComplete _ _ | abandon => rfl

/-- In every run, the consumer gets the beginning of what the service yields, in order and without
gaps, and when the generator ends either all of it or one error event at the end; the object of the
client has one operation outstanding until it is deleted, once, and the stream is closed then. -/
theorem stream_delivered (workflowId : WorkflowId) (script : List WorkflowEvent)
    (actions : List Action) (hrun : Meets step Possible (initial workflowId script) actions) :
    (runMachine step (initial workflowId script) actions).script = script ∧
      (runMachine step (initial workflowId script) actions).Delivers := by
  have hsound : (runMachine step (initial workflowId script) actions).Sound ∧
      (runMachine step (initial workflowId script) actions).script = script := by
    refine hrun.invariant (P := fun rpc => rpc.Sound ∧ rpc.script = script)
      ⟨initial_sound workflowId script, rfl⟩ ?_
    intro rpc action ⟨hsound, hscript⟩ hpossible
    exact ⟨hsound.step hpossible, (step_script rpc action).trans hscript⟩
  exact ⟨hsound.2, hsound.1.delivers⟩

def twoEvents : List Action :=
  [.start true, .serverComplete .request true, .startComplete true, .produce,
    .serverComplete .alarm true, .readComplete (some { detail := "first" }), .next,
    .serverComplete .write true, .produce,
    .serverComplete .alarm true, .readComplete (some { detail := "second" }),
      .serverComplete .write true, .produce,
    .serverComplete .alarm true, .readComplete none, .serverComplete .finish true,
      .finishComplete true {}, .next, .next]

theorem stream_delivered_twoEvents :
    let rpc :=
      runMachine step (initial "wf-1" [{ detail := "first" }, { detail := "second" }]) twoEvents
    rpc.consumer = .ended ∧ rpc.script = [{ detail := "first" }, { detail := "second" }] ∧
    rpc.Delivers := by
  have hrun : Meets step Possible
      (initial "wf-1" [{ detail := "first" }, { detail := "second" }]) twoEvents := by
    decide
  exact ⟨rfl, stream_delivered "wf-1" _ twoEvents hrun⟩

end StreamingRpc

end TaskOrchestrator.Grpc
