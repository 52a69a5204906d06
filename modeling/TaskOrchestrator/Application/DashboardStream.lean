import TaskOrchestrator.Application.Dashboard
import TaskOrchestrator.Library.EventStreams

/-!
# The bytes of a dashboard stream

What `process_operator_dashboard_stream` writes after the headers, and what a reader of chunks and
event streams makes of it. The connection may be lost between any two bytes. Writing a message as
JSON is protobuf's and is a parameter; `none` is a message that it refuses. A character stands for a
byte.
-/

namespace TaskOrchestrator.Http

open Library
open Operator (OperatorDashboardNotification)

set_option autoImplicit false

def kOperatorDashboardSseRetryMillis : Nat := 2000

/-- The bytes that a connection has taken, and how many more it takes before it is lost, if it ever
is. -/
structure Connection where
  taken : List Char := []
  capacity : Option Nat := none

namespace Connection

/-- `asio::write`, with no error if it is true. -/
def write (connection : Connection) (bytes : List Char) : Bool × Connection :=
  match connection.capacity with
  | none => (true, { connection with taken := connection.taken ++ bytes })
  | some capacity =>
    if bytes.length ≤ capacity then
      (true, { taken := connection.taken ++ bytes, capacity := some (capacity - bytes.length) })
    else (false, { taken := connection.taken ++ bytes.take capacity, capacity := some 0 })

variable {connection : Connection} {bytes : List Char}

theorem write_of_capacity {capacity : Nat} (h : connection.capacity = some capacity) :
    (connection.write bytes).2 =
      { taken := connection.taken ++ bytes.take capacity,
        capacity := some (capacity - bytes.length) } := by
  unfold write
  rw [h]
  by_cases hfits : bytes.length ≤ capacity
  · simp only [if_pos hfits, List.take_of_length_le hfits]
  · have hnone : capacity - bytes.length = 0 := by omega
    simp only [if_neg hfits, hnone]

theorem write_of_endless (h : connection.capacity = none) :
    (connection.write bytes).2 = { taken := connection.taken ++ bytes, capacity := none } := by
  unfold write
  rw [h]

/-- Bytes may be written together or one part after the other. -/
theorem write_append (connection : Connection) (first second : List Char) :
    (connection.write (first ++ second)).2 = ((connection.write first).2.write second).2 := by
  cases h : connection.capacity with
  | none => rw [write_of_endless h, write_of_endless h, write_of_endless rfl, List.append_assoc]
  | some capacity =>
    rw [write_of_capacity h, write_of_capacity h, write_of_capacity rfl, List.take_append,
      List.append_assoc, List.length_append, Nat.sub_sub]

theorem write_of_lost (h : (connection.write bytes).1 = false) (rest : List Char) :
    ((connection.write bytes).2.write rest).2 = (connection.write bytes).2 := by
  have hlost : (connection.write bytes).2.capacity = some 0 := by
    unfold write at h ⊢
    split at h
    · exact absurd h (by simp)
    · split_ifs at h with hfits
      rw [if_neg hfits]
  rw [write_of_capacity hlost, List.take_zero, List.append_nil, Nat.zero_sub, ← hlost]

theorem write_failed (h : (connection.write bytes).1 = false) (rest : List Char) :
    (connection.write (bytes ++ rest)).2 = (connection.write bytes).2 := by
  rw [write_append, write_of_lost h]

theorem taken_prefix (connection : Connection) (bytes : List Char) :
    (connection.write bytes).2.taken <+: connection.taken ++ bytes := by
  cases h : connection.capacity with
  | none => rw [write_of_endless h]
  | some capacity =>
    rw [write_of_capacity h]
    exact (List.prefix_append_right_inj _).mpr (List.take_prefix _ _)

end Connection

section Payloads

variable {Message : Type} (serializeJsonMessage : Message → Option (List Char))

def sseBody (message : Message) : List Char :=
  match serializeJsonMessage message with
  | some body => body
  | none =>
    "\x7b\"ok\":false,\"errorMessage\":\"".toList ++
      "Failed to serialize JSON response body.".toList ++ "\"\x7d".toList

def makeOperatorSseJsonPayload (message : Message) (eventName : List Char)
    (eventId : Nat) : List Char :=
  "id: ".toList ++ Nat.toDigits 10 eventId ++ "\n".toList ++
    "event: ".toList ++ eventName ++ "\n".toList ++
    "retry: ".toList ++ Nat.toDigits 10 kOperatorDashboardSseRetryMillis ++ "\n".toList ++
    "data: ".toList ++ sseBody serializeJsonMessage message ++ "\n\n".toList

def makeOperatorDashboardSsePayload (response : Message) (eventId : Nat) : List Char :=
  makeOperatorSseJsonPayload serializeJsonMessage response "dashboard".toList eventId

def makeOperatorDashboardUpdateSsePayload (update : Message) (eventId : Nat) : List Char :=
  makeOperatorSseJsonPayload serializeJsonMessage update "dashboard-update".toList eventId

def writeOperatorSsePayload (connection : Connection) (payload : List Char) : Bool × Connection :=
  connection.write (Nat.toDigits 16 payload.length ++ "\r\n".toList ++ payload ++ "\r\n".toList)

def writeOperatorSseComment (connection : Connection) (comment : List Char) : Bool × Connection :=
  writeOperatorSsePayload connection (": ".toList ++ comment ++ "\n\n".toList)

def writeOperatorSseEnd (connection : Connection) : Bool × Connection :=
  connection.write "0\r\n\r\n".toList

def sseEvent (message : Message) (eventName : List Char) (eventId : Nat) : StreamEvent :=
  { type := eventName
    data := sseBody serializeJsonMessage message
    lastEventId := Nat.toDigits 10 eventId }

def sseFields (message : Message) (eventName : List Char) (eventId : Nat) :
    List (List Char × List Char) :=
  [("id".toList, Nat.toDigits 10 eventId), ("event".toList, eventName),
    ("retry".toList, Nat.toDigits 10 kOperatorDashboardSseRetryMillis),
    ("data".toList, sseBody serializeJsonMessage message)]

def WritesLines : Prop := ∀ message body, serializeJsonMessage message = some body → OneLine body

variable {serializeJsonMessage}

theorem oneLine_sseBody (h : WritesLines serializeJsonMessage) (message : Message) :
    OneLine (sseBody serializeJsonMessage message) := by
  unfold sseBody
  split
  · rename_i body hbody
    exact h message body hbody
  · decide

theorem oneLine_toDigits (n : Nat) : OneLine (Nat.toDigits 10 n) := by
  have hdigit : ∀ c ∈ Nat.toDigits 10 n, c.isDigit = true := fun c hc =>
    Nat.isDigit_of_mem_toDigits (by decide) (by decide) hc
  exact ⟨fun h => absurd (hdigit _ h) (by decide), fun h => absurd (hdigit _ h) (by decide)⟩

theorem zero_notMem_toDigits (n : Nat) : '\x00' ∉ Nat.toDigits 10 n := fun h =>
  absurd (Nat.isDigit_of_mem_toDigits (by decide) (by decide) h) (by decide)

theorem payload_eq_eventText (message : Message) (eventName : List Char) (eventId : Nat) :
    makeOperatorSseJsonPayload serializeJsonMessage message eventName eventId =
      eventText (sseFields serializeJsonMessage message eventName eventId) := by
  have hid : "id: ".toList = "id".toList ++ [':', ' '] := rfl
  have hevent : "event: ".toList = "event".toList ++ [':', ' '] := rfl
  have hretry : "retry: ".toList = "retry".toList ++ [':', ' '] := rfl
  have hdata : "data: ".toList = "data".toList ++ [':', ' '] := rfl
  have hline : "\n".toList = ['\n'] := rfl
  have hlines : "\n\n".toList = ['\n'] ++ ['\n'] := rfl
  unfold makeOperatorSseJsonPayload eventText sseFields fieldText
  rw [hid, hevent, hretry, hdata, hline, hlines]
  simp only [List.flatMap_cons, List.flatMap_nil, List.append_assoc, List.nil_append]

theorem payload_ne_nil (message : Message) (eventName : List Char) (eventId : Nat) :
    makeOperatorSseJsonPayload serializeJsonMessage message eventName eventId ≠ [] := by
  rw [payload_eq_eventText]
  simp [eventText]

theorem sseFields_plain {message : Message} (hbody : OneLine (sseBody serializeJsonMessage message))
    {eventName : List Char} (hname : OneLine eventName) (eventId : Nat) :
    ∀ field ∈ sseFields serializeJsonMessage message eventName eventId, FieldPlain field := by
  have hplain : ∀ {name value : List Char}, name ≠ [] → ':' ∉ name → OneLine name → OneLine value →
      FieldPlain (name, value) := fun hnamed hcolon hname hvalue => ⟨hnamed, hcolon, hname, hvalue⟩
  intro field hfield
  simp only [sseFields, List.mem_cons, List.not_mem_nil, or_false] at hfield
  rcases hfield with rfl | rfl | rfl | rfl
  · exact hplain (by decide) (by decide) (by decide) (oneLine_toDigits _)
  · exact hplain (by decide) (by decide) (by decide) hname
  · exact hplain (by decide) (by decide) (by decide) (oneLine_toDigits _)
  · exact hplain (by decide) (by decide) (by decide) hbody

theorem foldl_sseFields (message : Message) (eventName : List Char) (eventId : Nat)
    (s : EventStreamState) :
    (sseFields serializeJsonMessage message eventName eventId).foldl
        (fun state field => state.readField field.1 field.2) s =
      { s with
        type := eventName
        data := s.data ++ sseBody serializeJsonMessage message ++ ['\n']
        lastEventId := Nat.toDigits 10 eventId
        reconnectionTime := some kOperatorDashboardSseRetryMillis } := by
  have hid : s.readField "id".toList (Nat.toDigits 10 eventId) =
      { s with lastEventId := Nat.toDigits 10 eventId } :=
    if_neg (zero_notMem_toDigits eventId)
  rw [sseFields, List.foldl_cons, hid]
  rfl

theorem eventReader_payload {message : Message}
    (hbody : OneLine (sseBody serializeJsonMessage message)) {eventName : List Char}
    (hname : eventName ≠ [] ∧ OneLine eventName) (eventId : Nat) {s : EventStreamState}
    (hs : s.Between) :
    ∃ t, eventReader.run s
    (makeOperatorSseJsonPayload serializeJsonMessage message eventName eventId) =
      (t, [sseEvent serializeJsonMessage message eventName eventId]) ∧ t.Between := by
  have hpending : EventStreamState.pending
      ((sseFields serializeJsonMessage message eventName eventId).foldl
        (fun state field => state.readField field.1 field.2) s) =
      [sseEvent serializeJsonMessage message eventName eventId] := by
    rw [foldl_sseFields]
    simp [EventStreamState.pending, sseEvent, hs.data, hname.1]
  rw [payload_eq_eventText, eventReader_event hs.line hs.afterReturn
    (sseFields_plain hbody hname.2 eventId), hpending, foldl_sseFields]
  exact ⟨_, rfl, hs.line, hs.afterReturn, rfl, rfl⟩

end Payloads

section Stream

variable {Dashboard Update : Type} (dashboardJson : Dashboard → Option (List Char))
  (updateJson : Update → Option (List Char))

def writeOperatorDashboardSseEvent (connection : Connection) (response : Dashboard)
    (eventId : Nat) :
    Bool × Connection :=
  writeOperatorSsePayload connection
    (makeOperatorDashboardSsePayload dashboardJson response eventId)

def writeOperatorDashboardUpdateSseEvent (connection : Connection) (update : Update)
    (eventId : Nat) :
    Bool × Connection :=
  writeOperatorSsePayload connection
    (makeOperatorDashboardUpdateSsePayload updateJson update eventId)

/-- What the waits for an update return while the server runs; `none` is a heartbeat. -/
abbrev Rounds (Update : Type) : Type := List (Option (OperatorDashboardNotification × Update))

def writeRounds : Rounds Update → Connection → Connection
  | [], connection => connection
  | none :: rounds, connection =>
    let written := writeOperatorSseComment connection "keepalive".toList
    if written.1 then writeRounds rounds written.2 else written.2
  | some (notification, update) :: rounds, connection =>
    let written :=
      writeOperatorDashboardUpdateSseEvent updateJson connection update notification.eventId
    if written.1 then writeRounds rounds written.2 else written.2

def processOperatorDashboardStream (initialEventId : Nat) (initialDashboard : Dashboard)
    (rounds : Rounds Update) (connection : Connection) : Connection :=
  let written :=
    writeOperatorDashboardSseEvent dashboardJson connection initialDashboard initialEventId
  if written.1 then (writeOperatorSseEnd (writeRounds updateJson rounds written.2)).2 else written.2

def roundPayload : Option (OperatorDashboardNotification × Update) → List Char
  | none => commentText "keepalive".toList
  | some (notification, update) =>
    makeOperatorDashboardUpdateSsePayload updateJson update notification.eventId

def roundEvents : Option (OperatorDashboardNotification × Update) → List StreamEvent
  | none => []
  | some (notification, update) =>
    [sseEvent updateJson update "dashboard-update".toList notification.eventId]

def streamPayloads (initialEventId : Nat) (initialDashboard : Dashboard) (rounds : Rounds Update) :
    List (List Char) :=
  makeOperatorDashboardSsePayload dashboardJson initialDashboard initialEventId :: rounds.map
    (roundPayload updateJson)

/-- The events of a stream: the dashboard, and one event for each update. -/
def streamEvents (initialEventId : Nat) (initialDashboard : Dashboard) (rounds : Rounds Update) :
    List StreamEvent :=
  sseEvent dashboardJson initialDashboard "dashboard".toList initialEventId :: rounds.flatMap
    (roundEvents updateJson)

def readStream (received : List Char) : (ChunkState × EventStreamState) × List StreamEvent :=
  (chunkReader.andThen eventReader).run (.size none, {}) received

variable {dashboardJson updateJson}

theorem writeOperatorSseComment_eq (connection : Connection) (comment : List Char) :
    writeOperatorSseComment connection comment = connection.write
    (chunk (commentText comment)) := rfl

/-- A loop that is left at a failed write has written as much as one that goes on. -/
theorem Connection.write_or_break (connection : Connection) (bytes rest : List Char) :
    (if (connection.write bytes).1 then ((connection.write bytes).2.write rest).2
      else (connection.write bytes).2) = (connection.write (bytes ++ rest)).2 := by
  cases h : (connection.write bytes).1 with
  | true => rw [if_pos rfl, Connection.write_append]
  | false => rw [if_neg Bool.false_ne_true, Connection.write_failed h]

theorem Connection.write_nil (connection : Connection) : (connection.write []).2 = connection := by
  obtain ⟨taken, capacity⟩ := connection
  cases capacity with
  | none => simp [Connection.write]
  | some capacity => simp [Connection.write]

theorem writeRounds_eq (rounds : Rounds Update) (connection : Connection) :
    writeRounds updateJson rounds connection =
      (connection.write ((rounds.map (roundPayload updateJson)).flatMap chunk)).2 := by
  induction rounds generalizing connection with
  | nil => exact connection.write_nil.symm
  | cons round rest ih =>
    rw [List.map_cons, List.flatMap_cons, ← Connection.write_or_break, ← ih]
    cases round with
    | none => rfl
    | some found => rfl

theorem processOperatorDashboardStream_eq (initialEventId : Nat) (initialDashboard : Dashboard)
    (rounds : Rounds Update) (connection : Connection) :
    processOperatorDashboardStream dashboardJson updateJson initialEventId initialDashboard rounds
        connection =
      (connection.write
        ((streamPayloads dashboardJson updateJson initialEventId initialDashboard rounds).flatMap
            chunk ++ lastChunk)).2 := by
  have hend : ∀ other : Connection, (writeOperatorSseEnd (writeRounds updateJson rounds other)).2 =
      (other.write ((rounds.map (roundPayload updateJson)).flatMap chunk ++ lastChunk)).2 := by
    intro other
    rw [Connection.write_append, ← writeRounds_eq]
    rfl
  unfold processOperatorDashboardStream
  simp only [hend]
  rw [streamPayloads, List.flatMap_cons, List.append_assoc]
  exact connection.write_or_break _ _

theorem streamPayloads_ne_nil (initialEventId : Nat) (initialDashboard : Dashboard)
    (rounds : Rounds Update) :
    ∀ payload ∈ streamPayloads dashboardJson updateJson initialEventId initialDashboard rounds,
      payload ≠ [] := by
  intro payload hpayload
  rcases List.mem_cons.mp hpayload with rfl | hround
  · exact payload_ne_nil _ _ _
  · obtain ⟨round, -, rfl⟩ := List.mem_map.mp hround
    cases round with
    | none => exact commentText_ne_nil _
    | some found => exact payload_ne_nil _ _ _

theorem eventReader_round (hupdate : WritesLines updateJson)
    (round : Option (OperatorDashboardNotification × Update)) {s : EventStreamState}
    (hs : s.Between) :
    ∃ t, eventReader.run s (roundPayload updateJson round) = (t, roundEvents updateJson round) ∧
    t.Between := by
  cases round with
  | none => exact ⟨s, eventReader_comment hs (by decide), hs⟩
  | some found =>
    exact eventReader_payload (oneLine_sseBody hupdate found.2)
      ⟨by decide, by decide⟩ found.1.eventId hs

theorem eventReader_rounds (hupdate : WritesLines updateJson) (rounds : Rounds Update)
    {s : EventStreamState} (hs : s.Between) :
    ∃ t, eventReader.run s (rounds.map (roundPayload updateJson)).flatten =
      (t, rounds.flatMap (roundEvents updateJson)) ∧ t.Between := by
  induction rounds generalizing s with
  | nil => exact ⟨s, rfl, hs⟩
  | cons round rest ih =>
    obtain ⟨middle, hround, hmiddle⟩ := eventReader_round hupdate round hs
    obtain ⟨t, hrest, ht⟩ := ih hmiddle
    refine ⟨t, ?_, ht⟩
    rw [List.map_cons, List.flatten_cons, Reader.run_append_of_run hround, hrest, List.flatMap_cons]

theorem eventReader_stream (hdashboard : WritesLines dashboardJson)
    (hupdate : WritesLines updateJson) (initialEventId : Nat) (initialDashboard : Dashboard)
    (rounds : Rounds Update) :
    (eventReader.run {}
      (streamPayloads dashboardJson updateJson initialEventId initialDashboard rounds).flatten).2 =
      streamEvents dashboardJson updateJson initialEventId initialDashboard rounds := by
  have hname : "dashboard".toList ≠ [] ∧ OneLine "dashboard".toList := ⟨by decide, by decide⟩
  obtain ⟨s, hfirst, hs⟩ := eventReader_payload (oneLine_sseBody hdashboard initialDashboard) hname
    initialEventId (s := {}) ⟨rfl, rfl, rfl, rfl⟩
  obtain ⟨t, hrest, -⟩ := eventReader_rounds hupdate rounds hs
  rw [streamPayloads, List.flatten_cons, makeOperatorDashboardSsePayload,
    Reader.run_append_of_run hfirst, hrest]
  rfl

theorem readStream_whole (hdashboard : WritesLines dashboardJson) (hupdate : WritesLines updateJson)
    (initialEventId : Nat) (initialDashboard : Dashboard) (rounds : Rounds Update) :
    (readStream
        ((streamPayloads dashboardJson updateJson initialEventId initialDashboard rounds).flatMap
            chunk ++ lastChunk)).1.1 = .ended ∧
      (readStream
          ((streamPayloads dashboardJson updateJson initialEventId initialDashboard rounds).flatMap
              chunk ++ lastChunk)).2 =
        streamEvents dashboardJson updateJson initialEventId initialDashboard rounds := by
  unfold readStream
  rw [Reader.run_andThen,
    chunkReader_text (streamPayloads_ne_nil initialEventId initialDashboard rounds)]
  exact ⟨rfl, eventReader_stream hdashboard hupdate initialEventId initialDashboard rounds⟩

theorem readStream_rounds (hdashboard : WritesLines dashboardJson)
    (hupdate : WritesLines updateJson) (initialEventId : Nat) (initialDashboard : Dashboard)
    (rounds : Rounds Update) :
    (readStream
      ((streamPayloads dashboardJson updateJson initialEventId initialDashboard rounds).flatMap
        chunk)).2 =
      streamEvents dashboardJson updateJson initialEventId initialDashboard rounds := by
  unfold readStream
  rw [Reader.run_andThen,
    chunkReader_chunks (streamPayloads_ne_nil initialEventId initialDashboard rounds)]
  exact eventReader_stream hdashboard hupdate initialEventId initialDashboard rounds

theorem whole_of_ended {received whole : List Char} (hbytes : received <+: whole)
    (hreceived : (readStream received).1.1 = .ended) (hwhole : (readStream whole).1.1 = .ended) :
    received = whole := by
  unfold readStream at hreceived hwhole
  rw [Reader.run_andThen] at hreceived hwhole
  exact Reader.whole_of_accepting ChunkState.failed (fun state => state = .ended) (fun _ => rfl)
    (fun state c h => h ▸ rfl) (by decide) hbytes hreceived hwhole

theorem taken_rounds (initialEventId : Nat) (initialDashboard : Dashboard)
    (rounds : Rounds Update) :
    (writeRounds updateJson rounds
        (writeOperatorDashboardSseEvent dashboardJson {} initialDashboard initialEventId).2).taken =
      (streamPayloads dashboardJson updateJson initialEventId initialDashboard rounds).flatMap
        chunk := by
  rw [writeRounds_eq]
  rfl

end Stream

/-- Wherever the connection is lost, the bytes that have arrived are read as the first events of the
stream, and at least as those whose chunks have arrived. A stream that is read as one that has ended
is read completely, and so it is once everything has arrived over a connection that is not lost. -/
theorem stream_read_back {Dashboard Update : Type} (dashboardJson : Dashboard → Option (List Char))
    (updateJson : Update → Option (List Char)) (hdashboard : WritesLines dashboardJson)
    (hupdate : WritesLines updateJson) (initialEventId : Nat) (initialDashboard : Dashboard)
    (rounds : Rounds Update) (capacity : Option Nat) (received : List Char)
    (hreceived : received <+: (processOperatorDashboardStream dashboardJson updateJson
      initialEventId initialDashboard rounds { capacity }).taken) :
    (readStream received).2 <+:
    streamEvents dashboardJson updateJson initialEventId initialDashboard rounds ∧
      (∀ arrived : Rounds Update,
        (writeRounds updateJson arrived
          (writeOperatorDashboardSseEvent dashboardJson {} initialDashboard initialEventId).2).taken
            <+: received →
        streamEvents dashboardJson updateJson initialEventId initialDashboard arrived <+:
          (readStream received).2) ∧
      ((readStream received).1.1 = .ended →
        (readStream received).2 =
        streamEvents dashboardJson updateJson initialEventId initialDashboard rounds) ∧
      (capacity = none →
        received =
        (processOperatorDashboardStream dashboardJson updateJson initialEventId
          initialDashboard rounds
          { capacity }).taken →
        (readStream received).1.1 = .ended) := by
  obtain ⟨hended, hevents⟩ :=
    readStream_whole hdashboard hupdate initialEventId initialDashboard rounds
  rw [processOperatorDashboardStream_eq] at hreceived ⊢
  have hwhole := hreceived.trans (Connection.taken_prefix _ _)
  rw [List.nil_append] at hwhole
  refine ⟨?_, ?_, ?_, ?_⟩
  · rw [← hevents]
    exact Reader.emitted_prefix hwhole
  · intro arrived harrived
    rw [taken_rounds] at harrived
    rw [← readStream_rounds hdashboard hupdate initialEventId initialDashboard arrived]
    exact Reader.emitted_prefix harrived
  · intro hreads
    rw [whole_of_ended hwhole hreads hended, hevents]
  · intro hcapacity hall
    rw [hall, Connection.write_of_endless hcapacity]
    exact hended

/-- A dashboard, a heartbeat and an update. -/
theorem stream_read_back_update :
    let json : Unit → Option (List Char) := fun _ => some "\x7b\"ok\":true\x7d".toList
    let rounds : Rounds Unit := [none, some ({ eventId := 8, workflowId := "w" }, ())]
    (readStream (processOperatorDashboardStream json json 7 () rounds {}).taken).2 =
      [{ type := "dashboard".toList, data := "\x7b\"ok\":true\x7d".toList, lastEventId := ['7'] },
        { type := "dashboard-update".toList, data := "\x7b\"ok\":true\x7d".toList,
          lastEventId := ['8'] }] := by
  intro json rounds
  have hlines : WritesLines json := by
    intro message body hbody
    cases hbody
    decide
  obtain ⟨-, -, hwhole, hended⟩ :=
    stream_read_back json json hlines hlines 7 () rounds none _ (List.prefix_refl _)
  exact hwhole (hended rfl rfl)

end TaskOrchestrator.Http
