import TaskOrchestrator.Application.DashboardStream
import TaskOrchestrator.System.LiveDashboard

/-!
# The console at the other end of the connection

The stream of a dashboard writes its events to a connection, and the console reads the bytes and
reacts to each event. A console that has read everything shows what the events themselves would make
it show. Writing and reading a message as JSON are parameters.
-/

namespace TaskOrchestrator.System

open Protocol Library ControlPlane
open Http (GetOperatorDashboardRequest Connection WritesLines makeOperatorDashboardSsePayload
  makeOperatorDashboardUpdateSsePayload readStream sseBody sseEvent writeOperatorDashboardSseEvent
  writeOperatorDashboardUpdateSseEvent writeOperatorSseComment)
open Program (Watched)
open Operator
    (GetOperatorDashboardResponse OperatorDashboardNotification buildDashboard
      resolveSelectedWorkflowId withSelectedHistory workflowSummaries)
open Console (OperatorDashboard dashboardOf onDashboardMessage onDashboardUpdateMessage)

set_option autoImplicit false

def DashboardStream.sends (query : GetOperatorDashboardRequest) (w : World)
    (stream : DashboardStream) :
    Option (Page × GetOperatorDashboardResponse) :=
  match stream.phase with
  | .listing page response =>
    let workflows := workflowSummaries w.store query.workflowQuery query.workflowPageSize
    let selectedWorkflowId := resolveSelectedWorkflowId query.selectedWorkflowId workflows
    if page.Selects selectedWorkflowId then none
      else some (page, { response with workflows, selectedWorkflowId })
  | .selecting page response (.ret selected) => some (page, withSelectedHistory response selected)
  | _ => none

structure StreamedDashboard where
  stream : DashboardStream := {}
  connection : Connection := {}

section Ends

variable (ends : Ends) (messageToJson : GetOperatorDashboardResponse → List Char)
  (parseJson : List Char → Option GetOperatorDashboardResponse)

def writePage (connection : Connection) (eventId : Nat) :
    Page → GetOperatorDashboardResponse → Connection
  | .dashboard, payload =>
    (writeOperatorDashboardSseEvent (fun message => some (messageToJson message)) connection payload
      eventId).2
  | .dashboardUpdate notification, payload =>
    (writeOperatorDashboardUpdateSseEvent (fun message => some (messageToJson message))
      connection payload notification.eventId).2

def StreamedDashboard.step (query : GetOperatorDashboardRequest) (w : World)
    (s : StreamedDashboard) :
    StreamedDashboard where
  stream := s.stream.step ends query w
  connection :=
    match s.stream.sends query w with
    | some (page, payload) => writePage messageToJson s.connection s.stream.lastEventId page payload
    | none =>
      if s.stream.phase.isWaiting ∧ (waitForUpdate w.feed s.stream.lastEventId).isNone then
        (writeOperatorSseComment s.connection "keepalive".toList).2
      else s.connection

structure ConsoleState where
  events : ℕ := 0
  shown : Option OperatorDashboard := none

/-- The listeners of `subscribeDashboard`. -/
def ConsoleState.receive (console : ConsoleState) (event : StreamEvent) : ConsoleState where
  events := console.events + 1
  shown :=
    if event.type = "dashboard".toList then
      match parseJson event.data with
      | some payload =>
        onDashboardMessage ends.browser (ends.readAt console.events) payload console.shown
      | none => console.shown
    else if event.type = "dashboard-update".toList then
      match parseJson event.data with
      | some payload =>
        onDashboardUpdateMessage ends.browser (ends.readAt console.events) payload console.shown
      | none => console.shown
    else console.shown

def consoleAfter (received : List Char) : ConsoleState :=
  (readStream received).2.foldl (ConsoleState.receive ends parseJson) {}

/-- The JSON text of a message is one line, and is read as the message that it was written for. -/
structure ReadBack (message : GetOperatorDashboardResponse) : Prop where
  line : OneLine (messageToJson message)
  read : parseJson (messageToJson message) = some message

/-- The console has read whole chunks, and shows what the stream has made of its events. -/
structure Carried (s : StreamedDashboard) : Prop where
  endless : s.connection.capacity = none
  whole : (readStream s.connection.taken).1.1 = .size none
  between : (readStream s.connection.taken).1.2.Between
  console : consoleAfter ends parseJson s.connection.taken = ⟨s.stream.sent.length, s.stream.shown⟩

variable {ends messageToJson parseJson}

theorem readStream_payload {taken payload : List Char} {events : List StreamEvent}
    (hne : payload ≠ []) (hwhole : (readStream taken).1.1 = .size none)
    (hpayload : ∃ t, eventReader.run (readStream taken).1.2 payload = (t, events) ∧ t.Between) :
    (readStream (taken ++ chunk payload)).1.1 = .size none ∧
    (readStream (taken ++ chunk payload)).1.2.Between ∧
      (readStream (taken ++ chunk payload)).2 = (readStream taken).2 ++ events := by
  obtain ⟨t, hread, ht⟩ := hpayload
  have hstate : (readStream taken).1 = (ChunkState.size none, (readStream taken).1.2) :=
    Prod.ext hwhole rfl
  have hchunk : (chunkReader.andThen eventReader).run (ChunkState.size none, (readStream taken).1.2)
      (chunk payload) = ((.size none, t), events) := by
    rw [Reader.run_andThen, chunkReader_chunk hne, hread]
  have happend : readStream (taken ++ chunk payload) =
      ((.size none, t), (readStream taken).2 ++ events) := by
    have hrun :=
      Reader.run_append (chunkReader.andThen eventReader)
        (ChunkState.size none, ({} : EventStreamState))
      taken (chunk payload)
    change readStream (taken ++ chunk payload) =
      (((chunkReader.andThen eventReader).run (readStream taken).1 (chunk payload)).1,
        (readStream taken).2 ++
          ((chunkReader.andThen eventReader).run (readStream taken).1 (chunk payload)).2) at hrun
    rw [hstate, hchunk] at hrun
    exact hrun
  rw [happend]
  exact ⟨rfl, ht, rfl⟩

theorem Carried.written {s s' : StreamedDashboard} (h : Carried ends parseJson s)
    {payload : List Char} {events : List StreamEvent} (hne : payload ≠ [])
    (hread : ∀ {state : EventStreamState}, state.Between →
      ∃ t, eventReader.run state payload = (t, events) ∧ t.Between)
    (hconnection : s'.connection = (s.connection.write (chunk payload)).2)
    (hconsole : events.foldl (ConsoleState.receive ends parseJson) ⟨s.stream.sent.length,
      s.stream.shown⟩ = ⟨s'.stream.sent.length, s'.stream.shown⟩) : Carried ends parseJson s' := by
  obtain ⟨hwhole, hbetween, hevents⟩ := readStream_payload hne h.whole (hread h.between)
  rw [Connection.write_of_endless h.endless] at hconnection
  refine ⟨by rw [hconnection], by rw [hconnection]; exact hwhole,
    by rw [hconnection]; exact hbetween, ?_⟩
  rw [hconnection, ← hconsole, ← h.console]
  change (readStream (s.connection.taken ++ chunk payload)).2.foldl
    (ConsoleState.receive ends parseJson) {} = _
  rw [hevents, List.foldl_append]
  rfl

theorem Carried.unwritten {s s' : StreamedDashboard} (h : Carried ends parseJson s)
    (hconnection : s'.connection = s.connection) (hsent : s'.stream.sent = s.stream.sent)
    (hshown : s'.stream.shown = s.stream.shown) :
    Carried ends parseJson s' := by
  refine ⟨by rw [hconnection]; exact h.endless, by rw [hconnection]; exact h.whole,
    by rw [hconnection]; exact h.between, ?_⟩
  rw [hconnection, h.console, hsent, hshown]

section Page

variable {payload : GetOperatorDashboardResponse} (hback : ReadBack messageToJson parseJson payload)
include hback

theorem receive_dashboard (console : ConsoleState) (eventId : Nat) :
    console.receive ends parseJson
        (sseEvent (fun message =>
          some (messageToJson message)) payload "dashboard".toList eventId) =
      ⟨console.events + 1,
        receivePage ends.browser console.shown .dashboard
        { payload, readAt := ends.readAt console.events }⟩ := by
  simp [ConsoleState.receive, sseEvent, sseBody, hback.read, receivePage]

theorem receive_dashboardUpdate (console : ConsoleState)
    (notification : OperatorDashboardNotification) (eventId : Nat) :
    console.receive ends parseJson
        (sseEvent (fun message => some (messageToJson message)) payload "dashboard-update".toList
          eventId) =
      ⟨console.events + 1, receivePage ends.browser console.shown (.dashboardUpdate notification)
        { payload, readAt := ends.readAt console.events }⟩ := by
  simp [ConsoleState.receive, sseEvent, sseBody, hback.read, receivePage]

theorem Carried.page {s s' : StreamedDashboard} (h : Carried ends parseJson s) (page : Page)
    (hconnection : s'.connection =
      writePage messageToJson s.connection s.stream.lastEventId page payload)
    (hstream : s'.stream = s.stream.send ends page payload) : Carried ends parseJson s' := by
  have hbody : OneLine (sseBody (fun message => some (messageToJson message)) payload) := hback.line
  cases page with
  | dashboard =>
    refine h.written (Http.payload_ne_nil payload "dashboard".toList s.stream.lastEventId)
      (fun hbetween =>
        Http.eventReader_payload hbody ⟨by decide, by decide⟩ s.stream.lastEventId hbetween)
          hconnection ?_
    rw [hstream, List.foldl_cons, receive_dashboard hback]
    simp [DashboardStream.send]
  | dashboardUpdate notification =>
    refine h.written (Http.payload_ne_nil payload "dashboard-update".toList notification.eventId)
      (fun hbetween =>
        Http.eventReader_payload hbody ⟨by decide, by decide⟩ notification.eventId hbetween)
          hconnection ?_
    rw [hstream, List.foldl_cons, receive_dashboardUpdate hback _ notification]
    simp [DashboardStream.send]

end Page

theorem Carried.silent {s : StreamedDashboard} (h : Carried ends parseJson s)
    {query : GetOperatorDashboardRequest} {w : World} (hsends : s.stream.sends query w = none)
    (hbusy : s.stream.phase.isWaiting = false)
    (hsent : (s.stream.step ends query w).sent = s.stream.sent)
    (hshown : (s.stream.step ends query w).shown = s.stream.shown) :
    Carried ends parseJson (s.step ends messageToJson query w) := by
  refine h.unwritten ?_ hsent hshown
  simp [StreamedDashboard.step, hsends, hbusy]

theorem Carried.step {s : StreamedDashboard} (h : Carried ends parseJson s)
    (query : GetOperatorDashboardRequest) (w : World)
    (hback : ∀ message ∈ (s.step ends messageToJson query w).stream.sent,
      ReadBack messageToJson parseJson message.payload) :
    Carried ends parseJson (s.step ends messageToJson query w) := by
  have hsends : ∀ {page payload}, s.stream.sends query w = some (page, payload) →
      s.stream.step ends query w = s.stream.send ends page payload →
      Carried ends parseJson (s.step ends messageToJson query w) := by
    intro page payload hsend hstream
    have hmem : (⟨payload, ends.readAt s.stream.sent.length⟩ : SentMessage) ∈
        (s.step ends messageToJson query w).stream.sent := by
      change _ ∈ (s.stream.step ends query w).sent
      rw [hstream]
      exact List.mem_append_right _ List.mem_cons_self
    refine h.page (hback _ hmem) page ?_ hstream
    simp [StreamedDashboard.step, hsend]
  obtain ⟨⟨phase, lastEventId, eventIds, sent, shown⟩, connection⟩ := s
  cases phase with
  | opening => exact h.silent rfl rfl rfl rfl
  | measuring page => exact h.silent rfl rfl rfl rfl
  | listing page response =>
    by_cases hselects : page.Selects (resolveSelectedWorkflowId query.selectedWorkflowId
        (workflowSummaries w.store query.workflowQuery query.workflowPageSize))
    · exact h.silent (if_pos hselects) rfl (by simp only [DashboardStream.step, if_pos hselects])
        (by simp only [DashboardStream.step, if_pos hselects])
    · exact hsends (if_neg hselects) (if_neg hselects)
  | selecting page response rest =>
    cases rest with
    | ret selected => exact hsends rfl rfl
    | call read k => exact h.silent rfl rfl rfl rfl
  | waiting =>
    cases hevent : waitForUpdate w.feed lastEventId with
    | none =>
      have hread : ∀ {state : EventStreamState}, state.Between → ∃ t, eventReader.run state
          (commentText "keepalive".toList) = (t, []) ∧ t.Between := fun hbetween =>
        ⟨_, eventReader_comment hbetween (by decide), hbetween⟩
      have hstream : DashboardStream.step ends query w ⟨.waiting, lastEventId, eventIds,
          sent, shown⟩ = ⟨.waiting, lastEventId, eventIds, sent, shown⟩ := by
        simp only [DashboardStream.step, hevent]
      refine h.written (commentText_ne_nil _) hread ?_ (congrArg
        (fun stream : DashboardStream => ConsoleState.mk stream.sent.length stream.shown)
        hstream.symm)
      rw [← Http.writeOperatorSseComment_eq]
      exact if_pos ⟨rfl, by rw [hevent]; rfl⟩
    | some event =>
      refine h.unwritten (if_neg fun hkeepalive => ?_)
        (by simp only [StreamedDashboard.step, DashboardStream.step, hevent])
        (by simp only [StreamedDashboard.step, DashboardStream.step, hevent])
      rw [hevent] at hkeepalive
      exact absurd hkeepalive.2 (by simp)

end Ends

/-- Once all requests have ended and the stream waits after the last event of the feed, a console
that has read all bytes shows what a query of the dashboard at the server time of the last message
would show, unless an event of the stream was missed or a message could not be printed. -/
theorem console_reads_along {ι : Type} [DecidableEq ι] (env : Environment) (bootId : String)
    (clock : Nat → Int) (log : List (Op × World)) (w : World)
    (before : Lifetimes env NamesWorkflow (.initial bootId clock) log w) (requests : ι → Request)
    (hnames : ∀ i, NamesWorkflow (requests i)) (ends : Ends) (query : GetOperatorDashboardRequest)
    (hselected : query.selectedWorkflowId ≠ "")
    (messageToJson : GetOperatorDashboardResponse → List Char)
    (parseJson : List Char → Option GetOperatorDashboardResponse) (calls : List (Op × World))
    (left : ι → Service Answer) (t : World) (s : StreamedDashboard)
    (run : Watched (handle env) (StreamedDashboard.step ends messageToJson query)
      (fun i => (requests i).program env) w {} calls left t s)
    (hjson : ∀ message ∈ s.stream.sent, ReadBack messageToJson parseJson message.payload)
    (hprune : NeverPrunes calls) (hended : ∀ i, ∃ answer, left i = pure answer)
    (hwaiting : s.stream.phase.isWaiting = true)
    (hhandled : s.stream.lastEventId = t.feed.latestEventId) (hids : Consecutive s.stream.eventIds)
    (hprintable : ∀ message ∈ s.stream.sent, message.Printable) :
    ∃ now, (consoleAfter ends parseJson s.connection.taken).shown =
      some (dashboardOf (buildDashboard ends.bindings t.store now query)) := by
  have hstart : Carried ends parseJson {} := ⟨rfl, rfl, ⟨rfl, rfl, rfl, rfl⟩, rfl⟩
  obtain ⟨unannounced, ⟨hwatching, hcarried⟩, hleft⟩ := run.preserves (M := fun _ => announcer env)
    (fun log now unannounced s =>
      Watching env ends query w.feed.latestEventId log now unannounced s.stream ∧
      ((∀ message ∈ s.stream.sent, ReadBack messageToJson parseJson message.payload) →
        Carried ends parseJson s))
    (fun log now unannounced s i op h hallows => ⟨(h.1.call hallows).1, (h.1.call hallows).2, h.2⟩)
    (fun log now unannounced s h => ⟨h.1.look hselected, fun hback => by
      obtain ⟨messages, hsent⟩ := @DashboardStream.sent_step query ends now s.stream
      have hbefore : ∀ message ∈ s.stream.sent, ReadBack messageToJson parseJson message.payload :=
        fun message hmessage =>
        hback message (hsent ▸ List.mem_append_left messages hmessage)
      exact (h.2 hbefore).step query now hback⟩)
    (fun i => Request.program_announces (hnames i)) [] ⟨.start before.registered, fun _ => hstart⟩
  obtain ⟨now, hshown⟩ :=
    hwatching.caughtUp hselected (announced_of_ended hleft hended) hprune hwaiting hhandled hids
      hprintable
  exact ⟨now, (congrArg ConsoleState.shown (hcarried hjson).console).trans hshown⟩

def okText : GetOperatorDashboardResponse → List Char := fun _ => "\x7b\"ok\":true\x7d".toList

/-- A submission is served, and then a stream opens, sends its dashboard and waits. -/
theorem console_reads_along_submitted : ∃ calls left t s parseJson now,
    Watched (handle openEnvironment) (StreamedDashboard.step watchedEnds okText watchedQuery)
      (fun _ : Unit => (Request.submit { config := { id := "w" } }).program openEnvironment)
      newDatabase {} calls left t s ∧
    s.stream.sent.length = 1 ∧
    (consoleAfter watchedEnds parseJson s.connection.taken).shown =
      some (dashboardOf (buildDashboard watchedEnds.bindings t.store now watchedQuery)) := by
  have hfits : (Program.runWatched (handle openEnvironment)
      (StreamedDashboard.step watchedEnds okText watchedQuery)
      (List.replicate 18 (some ()) ++ List.replicate 10 none)
      (fun _ => (Request.submit { config := { id := "w" } }).program openEnvironment)
        newDatabase {}).any
      (fun r => r.1.all (fun entry => !prunes entry.1) = true ∧ (r.2.1 ()).answer?.isSome = true ∧
        r.2.2.2.stream.phase.isWaiting = true ∧
        r.2.2.2.stream.lastEventId = r.2.2.1.feed.latestEventId ∧
        r.2.2.2.stream.eventIds = [4] ∧ r.2.2.2.stream.sent.length = 1 ∧
        ∀ message ∈ r.2.2.2.stream.sent, message.Printable) = true := by
    decide +kernel
  obtain ⟨calls, left, t, s, run, hprune, hended, hwaiting, hhandled, hids, hsent, hprintable⟩ :=
    Program.exists_watched hfits
  obtain ⟨message, hmessage⟩ := List.length_eq_one_iff.mp hsent
  have hconsecutive : Consecutive s.stream.eventIds := by
    rw [hids]
    decide
  have hjson : ∀ sent ∈ s.stream.sent,
      ReadBack okText (fun _ => some message.payload) sent.payload := by
    intro sent hmem
    rw [hmessage, List.mem_singleton] at hmem
    subst hmem
    exact ⟨show OneLine "\x7b\"ok\":true\x7d".toList by decide, rfl⟩
  obtain ⟨now, hshown⟩ :=
    console_reads_along openEnvironment "boot" (fun reading => reading) [] newDatabase .start
    (fun _ => .submit { config := { id := "w" } }) (fun _ => show "w" ≠ "" by decide) watchedEnds
      watchedQuery (by decide)
    okText (fun _ => some message.payload) calls left t s run hjson (neverPrunes_of_all hprune)
    (fun _ => Program.exists_of_answer? hended) hwaiting hhandled hconsecutive hprintable
  exact ⟨calls, left, t, s, fun _ => some message.payload, now, run, hsent, hshown⟩

end TaskOrchestrator.System
