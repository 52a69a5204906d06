import TaskOrchestrator.Console.Dashboard
import TaskOrchestrator.System.Announcements
import Mathlib.Data.List.Chain

/-!
# A console that watches

`process_operator_dashboard_stream` and the console at its other end. The stream asks for the latest
event id, sends the dashboard, and then an update for each event of the feed. Requests are served in
the meantime, and the store may change between any two reads of the stream. Once nothing is under
way and the last event is handled, the console shows what the store holds. A message with a time
that the console cannot print is not shown, so that the messages are taken to have none.
-/

namespace TaskOrchestrator.System

open Protocol Library ControlPlane
open Http (GetOperatorDashboardRequest)
open Program (Announcing Obeys Watched)
open Operator
    (Read ReadsOnly GetOperatorDashboardResponse GetWorkflowHistoryResponse
      OperatorDashboardNotification ConnectorBinding buildDashboard populateConnectorBindings
      populateDashboardStats readSelectedWorkflow readFoundWorkflow resolveSelectedWorkflowId
      selectedHistory startResponse withSelectedHistory workflowSummaries)
open Console
    (Browser OperatorDashboard WorkflowDetail applyDashboardUpdate dashboardOf foundDetail
      onDashboardMessage onDashboardUpdateMessage payloadTimes withinDates)

set_option autoImplicit false

inductive Page where
  | dashboard
  | dashboardUpdate (notification : OperatorDashboardNotification)

def Page.Selects : Page → WorkflowId → Prop
  | .dashboard, selectedWorkflowId => selectedWorkflowId ≠ ""
  | .dashboardUpdate notification, selectedWorkflowId =>
    selectedWorkflowId ≠ "" ∧ selectedWorkflowId = notification.workflowId

instance :
    (page : Page) → (selectedWorkflowId : WorkflowId) → Decidable (page.Selects selectedWorkflowId)
  | .dashboard, selectedWorkflowId => inferInstanceAs (Decidable (selectedWorkflowId ≠ ""))
  | .dashboardUpdate notification, selectedWorkflowId =>
    inferInstanceAs
      (Decidable (selectedWorkflowId ≠ "" ∧ selectedWorkflowId = notification.workflowId))

/-- Where the stream is: before the latest event id is asked for, before the statistics are read,
before the workflows are listed, among the reads of the selected workflow, or between two events. -/
inductive StreamPhase where
  | opening
  | measuring (page : Page)
  | listing (page : Page) (response : GetOperatorDashboardResponse)
  | selecting (page : Page) (response : GetOperatorDashboardResponse)
      (rest : Program Operator.storeReads (GetWorkflowHistoryResponse × GetPlanDiffResponse))
  | waiting

def StreamPhase.isWaiting : StreamPhase → Bool
  | .waiting => true
  | _ => false

/-- The connectors, the browser, and for each message the clocks of the server that builds it and of
the console that reads it. -/
structure Ends where
  bindings : List ConnectorBinding
  browser : Browser
  builtAt : ℕ → ℤ
  readAt : ℕ → ℕ

structure SentMessage where
  payload : GetOperatorDashboardResponse
  readAt : ℕ

/-- The stream with the ids of its events, of which the last may not be sent yet, and the dashboard
that the console shows when it has received what was sent. -/
structure DashboardStream where
  phase : StreamPhase := .opening
  lastEventId : Nat := 0
  eventIds : List Nat := []
  sent : List SentMessage := []
  shown : Option OperatorDashboard := none

def receivePage (browser : Browser) (shown : Option OperatorDashboard) :
    Page → SentMessage → Option OperatorDashboard
  | .dashboard, message => onDashboardMessage browser message.readAt message.payload shown
  | .dashboardUpdate _, message =>
    onDashboardUpdateMessage browser message.readAt message.payload shown

def SentMessage.Printable (message : SentMessage) : Prop :=
  ∀ time ∈ payloadTimes message.readAt message.payload, withinDates time = true

instance (message : SentMessage) : Decidable message.Printable :=
  inferInstanceAs (Decidable (∀ time ∈ _, withinDates time = true))

/-- `wait_for_update`. -/
def waitForUpdate (feed : UpdateFeed) (afterEventId : Nat) : Option WorkflowUpdateEvent :=
  if afterEventId < feed.latestEventId then feed.events.find? fun event =>
    afterEventId < event.eventId else none

namespace DashboardStream

variable (ends : Ends)

def send (stream : DashboardStream) (page : Page) (payload : GetOperatorDashboardResponse) :
    DashboardStream :=
  let message : SentMessage := { payload, readAt := ends.readAt stream.sent.length }
  { stream with
    phase := .waiting
    sent := stream.sent ++ [message]
    shown := receivePage ends.browser stream.shown page message }

def step (query : GetOperatorDashboardRequest) (w : World) (stream : DashboardStream) :
    DashboardStream :=
  match stream.phase with
  | .opening =>
    { stream with
      phase := .measuring .dashboard
      lastEventId := w.feed.latestEventId
      eventIds := [w.feed.latestEventId] }
  | .measuring page =>
    { stream with phase := .listing page (startResponse ends.bindings w.store
      (ends.builtAt stream.sent.length)) }
  | .listing page response =>
    let workflows := workflowSummaries w.store query.workflowQuery query.workflowPageSize
    let selectedWorkflowId := resolveSelectedWorkflowId query.selectedWorkflowId workflows
    let listed := { response with workflows, selectedWorkflowId }
    if page.Selects selectedWorkflowId then
      { stream with phase := .selecting page listed (readSelectedWorkflow
        selectedWorkflowId query) }
    else stream.send ends page listed
  | .selecting page response (.ret selected) =>
    stream.send ends page (withSelectedHistory response selected)
  | .selecting page response (.call read k) =>
    { stream with phase := .selecting page response (k (read.answer w.store)) }
  | .waiting =>
    match waitForUpdate w.feed stream.lastEventId with
    | none => stream
    | some event =>
      { stream with
        phase :=
          .measuring (.dashboardUpdate { eventId := event.eventId, workflowId := event.workflowId })
        lastEventId := event.eventId
        eventIds := stream.eventIds ++ [event.eventId] }

end DashboardStream

theorem buildDashboard_selected {query : GetOperatorDashboardRequest}
    (hselected : query.selectedWorkflowId ≠ "") (bindings : List ConnectorBinding) (store : Store)
    (now : ℤ) :
    dashboardOf (buildDashboard bindings store now query) =
      { serverTimeUnixMs := now
        stats := populateDashboardStats bindings store now
        workflows := workflowSummaries store query.workflowQuery query.workflowPageSize
        connectors := populateConnectorBindings bindings
        selectedWorkflowId := query.selectedWorkflowId
        selectedWorkflow :=
          foundDetail (some (selectedHistory store query.selectedWorkflowId query).1)
          (some (selectedHistory store query.selectedWorkflowId query).2) } := by
  have hid := Operator.selectedId_of_selected store query hselected
  unfold Operator.selectedId at hid
  unfold buildDashboard
  simp only [hid, if_neg hselected]
  rfl

section Shown

variable (bindings : List ConnectorBinding) (query : GetOperatorDashboardRequest)

def detailsIn (store : Store) : Option WorkflowDetail :=
  foundDetail (some (selectedHistory store query.selectedWorkflowId query).1)
    (some (selectedHistory store query.selectedWorkflowId query).2)

def summariesIn (store : Store) : List WorkflowSummary :=
  workflowSummaries store query.workflowQuery query.workflowPageSize

/-- The statistics and the connectors of a message are those of the store. -/
structure Started (store : Store) (response : GetOperatorDashboardResponse) : Prop where
  stats : response.stats = populateDashboardStats bindings store response.serverTimeUnixMs
  connectors : response.connectors = populateConnectorBindings bindings

structure Listed (store : Store) (dashboard : OperatorDashboard) : Prop where
  workflows : dashboard.workflows = summariesIn query store
  stats : dashboard.stats = populateDashboardStats bindings store dashboard.serverTimeUnixMs
  connectors : dashboard.connectors = populateConnectorBindings bindings

structure ShowsStored (store : Store) (dashboard : OperatorDashboard) : Prop where
  selected : dashboard.selectedWorkflowId = query.selectedWorkflowId
  stored : dashboard.selectedWorkflow.isSome → (store.getWorkflow query.selectedWorkflowId).isSome

/-- The rest of the reads gives what all of them would give now, if the workflow is settled. -/
structure Underway (store : Store) (settled : Option WorkflowId → Prop)
    (rest : Program Operator.storeReads (GetWorkflowHistoryResponse × GetPlanDiffResponse)) :
    Prop where
  reads : ReadsOnly query.selectedWorkflowId (fun _ => True) rest
  agrees : settled (some query.selectedWorkflowId) →
    rest.valueAt Read.answer store = selectedHistory store query.selectedWorkflowId query
  found : rest = readSelectedWorkflow query.selectedWorkflowId query ∨ ∃ found : Bool,
    ReadsOnly query.selectedWorkflowId (fun result => result.1.ok = found) rest ∧
      (found = true → (store.getWorkflow query.selectedWorkflowId).isSome)

def FindsShown (store : Store) (settled : Option WorkflowId → Prop)
    (shown : Option OperatorDashboard) : Page → Prop
  | .dashboard => True
  | .dashboardUpdate notification =>
    ∃ dashboard, shown = some dashboard ∧ ShowsStored query store dashboard ∧
    (notification.workflowId ≠ query.selectedWorkflowId → settled (some query.selectedWorkflowId) →
      dashboard.selectedWorkflow = detailsIn query store)

/-- What is known in each phase, where `settled` says that nothing is to be announced about a
workflow, or about any. -/
inductive PhaseHolds (store : Store) (settled : Option WorkflowId → Prop)
    (shown : Option OperatorDashboard) :
    StreamPhase → Prop where
  | opening : PhaseHolds store settled shown .opening
  | measuring {page : Page} : FindsShown query store settled shown page →
    PhaseHolds store settled shown (.measuring page)
  | listing {page : Page} {response : GetOperatorDashboardResponse} :
    FindsShown query store settled shown page →
      response.selectedWorkflow = none → (settled none → Started bindings store response) →
      PhaseHolds store settled shown (.listing page response)
  | selecting {page : Page} {response : GetOperatorDashboardResponse}
      {rest : Program Operator.storeReads (GetWorkflowHistoryResponse × GetPlanDiffResponse)} :
      (page = .dashboard ∨ ∃ dashboard, shown = some dashboard ∧
        ShowsStored query store dashboard) →
      response.selectedWorkflowId = query.selectedWorkflowId →
      (settled none → Listed bindings query store (dashboardOf response)) →
        Underway query store settled rest →
      PhaseHolds store settled shown (.selecting page response rest)
  | waiting {dashboard : OperatorDashboard} : shown = some dashboard →
    ShowsStored query store dashboard →
      (settled (some query.selectedWorkflowId) → dashboard.selectedWorkflow =
        detailsIn query store) →
      (settled none → Listed bindings query store dashboard) →
        PhaseHolds store settled shown .waiting

variable {bindings query} {store store' : Store} {settled settled' : Option WorkflowId → Prop}
  {shown : Option OperatorDashboard} {phase : StreamPhase}

/-- What a call of a request must leave for the stream. -/
structure Unnoticed (query : GetOperatorDashboardRequest) (store store' : Store)
    (settled settled' : Option WorkflowId → Prop) : Prop where
  before : ∀ about, settled' about → settled about
  summaries : settled' none → summariesIn query store' = summariesIn query store
  stats : settled' none → ∀ bindings now,
    populateDashboardStats bindings store' now = populateDashboardStats bindings store now
  values : settled' (some query.selectedWorkflowId) →
    ∀ {β : Type} {P : β → Prop} {p : Program Operator.storeReads β},
    ReadsOnly query.selectedWorkflowId P p →
      p.valueAt Read.answer store' = p.valueAt Read.answer store
  stored : (store.getWorkflow query.selectedWorkflowId).isSome →
    (store'.getWorkflow query.selectedWorkflowId).isSome

theorem Unnoticed.selectedHistory (h : Unnoticed query store store' settled settled')
    (hsettled : settled' (some query.selectedWorkflowId)) :
    selectedHistory store' query.selectedWorkflowId query =
      selectedHistory store query.selectedWorkflowId query := by
  rw [← Operator.valueAt_readSelectedWorkflow, ← Operator.valueAt_readSelectedWorkflow]
  exact h.values hsettled (Operator.readsOnly_selectedWorkflow _ _)

theorem Unnoticed.detailsIn (h : Unnoticed query store store' settled settled')
    (hsettled : settled' (some query.selectedWorkflowId)) :
    detailsIn query store' = detailsIn query store := by
  unfold System.detailsIn
  rw [h.selectedHistory hsettled]

theorem ShowsStored.unnoticed {dashboard : OperatorDashboard}
    (h : ShowsStored query store dashboard)
    (hcall : Unnoticed query store store' settled settled') : ShowsStored query store' dashboard :=
  ⟨h.selected, fun hsome => hcall.stored (h.stored hsome)⟩

theorem Underway.unnoticed
    {rest : Program Operator.storeReads (GetWorkflowHistoryResponse × GetPlanDiffResponse)}
    (h : Underway query store settled rest)
    (hcall : Unnoticed query store store' settled settled') :
    Underway query store' settled' rest where
  reads := h.reads
  agrees hsettled := by
    rw [hcall.values hsettled h.reads, h.agrees (hcall.before _ hsettled),
      hcall.selectedHistory hsettled]
  found := by
    rcases h.found with hstart | ⟨found, hreads, hstored⟩
    · exact Or.inl hstart
    · exact Or.inr ⟨found, hreads, fun hfound => hcall.stored (hstored hfound)⟩

theorem Started.unnoticed {response : GetOperatorDashboardResponse}
    (h : Started bindings store response) (hcall : Unnoticed query store store' settled settled')
    (hsettled : settled' none) :
    Started bindings store' response :=
  ⟨h.stats.trans (hcall.stats hsettled _ _).symm, h.connectors⟩

theorem Listed.unnoticed {dashboard : OperatorDashboard} (h : Listed bindings query store dashboard)
    (hcall : Unnoticed query store store' settled settled') (hsettled : settled' none) :
    Listed bindings query store' dashboard :=
  ⟨h.workflows.trans (hcall.summaries hsettled).symm, h.stats.trans (hcall.stats hsettled _ _).symm,
    h.connectors⟩

theorem FindsShown.unnoticed {page : Page} (h : FindsShown query store settled shown page)
    (hcall : Unnoticed query store store' settled settled') :
    FindsShown query store' settled' shown page := by
  cases page with
  | dashboard => trivial
  | dashboardUpdate notification =>
    obtain ⟨dashboard, hshown, hstored, hdetails⟩ := h
    refine ⟨dashboard, hshown, hstored.unnoticed hcall, fun hother hsettled => ?_⟩
    rw [hdetails hother (hcall.before _ hsettled), hcall.detailsIn hsettled]

theorem PhaseHolds.unnoticed (h : PhaseHolds bindings query store settled shown phase)
    (hcall : Unnoticed query store store' settled settled') :
    PhaseHolds bindings query store' settled' shown phase := by
  cases h with
  | opening => exact .opening
  | measuring hfinds => exact .measuring (hfinds.unnoticed hcall)
  | listing hfinds hnone hstarted =>
    exact .listing (hfinds.unnoticed hcall) hnone fun hsettled =>
      (hstarted (hcall.before _ hsettled)).unnoticed hcall hsettled
  | selecting hpage hid hlisted hrest =>
    refine .selecting ?_ hid (fun hsettled =>
      (hlisted (hcall.before _ hsettled)).unnoticed hcall hsettled)
      (hrest.unnoticed hcall)
    rcases hpage with hfirst | ⟨dashboard, hshown, hstored⟩
    · exact Or.inl hfirst
    · exact Or.inr ⟨dashboard, hshown, hstored.unnoticed hcall⟩
  | waiting hshown hstored hdetails hlisted =>
    refine .waiting hshown (hstored.unnoticed hcall) (fun hsettled => ?_) fun hsettled =>
      (hlisted (hcall.before _ hsettled)).unnoticed hcall hsettled
    rw [hdetails (hcall.before _ hsettled), hcall.detailsIn hsettled]

theorem foundDetail_isSome {history : GetWorkflowHistoryResponse}
    {planDiff : Option GetPlanDiffResponse} :
    (foundDetail (some history) planDiff).isSome = history.ok := by
  cases hok : history.ok with
  | false => simp [foundDetail, Console.jsonBool, hok]
  | true => simp [foundDetail, Console.jsonBool, hok]

theorem detailsIn_isSome (store : Store) :
    (detailsIn query store).isSome = (store.getWorkflow query.selectedWorkflowId).isSome := by
  unfold detailsIn
  rw [foundDetail_isSome]
  exact (Operator.selectedHistory_fst store query query.selectedWorkflowId).1

theorem Underway.start (store : Store) (settled : Option WorkflowId → Prop) :
    Underway query store settled (readSelectedWorkflow query.selectedWorkflowId query) where
  reads := Operator.readsOnly_selectedWorkflow _ _
  agrees _ := Operator.valueAt_readSelectedWorkflow store _ _
  found := Or.inl rfl

/-- After one more read, the rest still gives what all reads would give now. -/
theorem Underway.read {read : Read}
    {k : read.Reply → Program Operator.storeReads
      (GetWorkflowHistoryResponse × GetPlanDiffResponse)}
    (h : Underway query store settled (.call read k)) :
    Underway query store settled (k (read.answer store)) where
  reads := h.reads.2 _ trivial
  agrees hsettled := h.agrees hsettled
  found := by
    right
    rcases h.found with hstart | ⟨found, hreads, hstored⟩
    · rw [Operator.readSelectedWorkflow_eq] at hstart
      cases hstart
      exact ⟨_, Operator.readsOnly_foundWorkflow _ _ _, fun hfound => hfound⟩
    · exact ⟨found, hreads.2 _ trivial, hstored⟩

theorem Underway.result {selected : GetWorkflowHistoryResponse × GetPlanDiffResponse}
    (h : Underway query store settled (.ret selected)) :
    (settled (some query.selectedWorkflowId) →
        foundDetail (some selected.1) (some selected.2) = detailsIn query store) ∧
      ((foundDetail (some selected.1) (some selected.2)).isSome →
        (store.getWorkflow query.selectedWorkflowId).isSome) := by
  constructor
  · intro hsettled
    have hagrees : selected = selectedHistory store query.selectedWorkflowId query :=
      h.agrees hsettled
    unfold detailsIn
    rw [← hagrees]
  · intro hsome
    rw [foundDetail_isSome] at hsome
    rcases h.found with hstart | ⟨found, hreads, hstored⟩
    · rw [Operator.readSelectedWorkflow_eq] at hstart
      cases hstart
    · have hfound : selected.1.ok = found := hreads
      exact hstored (hfound.symm.trans hsome)

section Received

variable {browser : Browser} {message : SentMessage} (hprintable : message.Printable)
include hprintable

theorem receivePage_dashboard :
    receivePage browser shown .dashboard message = some (dashboardOf message.payload) := by
  rw [receivePage, onDashboardMessage, Console.mapDashboardResponse_of_within hprintable]

theorem receivePage_update (notification : OperatorDashboardNotification) :
    receivePage browser shown (.dashboardUpdate notification) message =
      applyDashboardUpdate (dashboardOf message.payload) shown :=
  Console.onDashboardUpdateMessage_of_within hprintable

theorem PhaseHolds.sendSelected (hselected : query.selectedWorkflowId ≠ "") {page : Page}
    {response : GetOperatorDashboardResponse}
    {selected : GetWorkflowHistoryResponse × GetPlanDiffResponse}
    (hpage : page = .dashboard ∨ ∃ dashboard, shown = some dashboard ∧
      ShowsStored query store dashboard)
    (hid : response.selectedWorkflowId = query.selectedWorkflowId)
    (hlisted : settled none → Listed bindings query store (dashboardOf response))
    (hrest : Underway query store settled (.ret selected))
    (hmessage : message.payload = withSelectedHistory response selected) :
    PhaseHolds bindings query store settled (receivePage browser shown page message) .waiting := by
  obtain ⟨hdetails, hstored⟩ := hrest.result
  have hlist : settled none →
      Listed bindings query store (dashboardOf (withSelectedHistory response selected)) :=
    fun hsettled =>
      ⟨(hlisted hsettled).workflows, (hlisted hsettled).stats, (hlisted hsettled).connectors⟩
  cases page with
  | dashboard =>
    rw [receivePage_dashboard hprintable, hmessage]
    exact .waiting rfl ⟨hid, hstored⟩ hdetails hlist
  | dashboardUpdate notification =>
    obtain ⟨dashboard, rfl, hshows⟩ : ∃ dashboard, shown = some dashboard ∧
        ShowsStored query store dashboard := by
      rcases hpage with hfirst | hlater
      · exact absurd hfirst (by simp)
      · exact hlater
    rw [receivePage_update hprintable, hmessage]
    have hnot : (withSelectedHistory response selected).selectedWorkflowId ≠ "" := hid ▸ hselected
    refine .waiting rfl ⟨(if_pos hnot).trans hid, ?_⟩ (fun hsettled => ?_) fun hsettled =>
      ⟨(hlist hsettled).workflows, (hlist hsettled).stats, (hlist hsettled).connectors⟩
    · intro hsome
      cases hnew : foundDetail (some selected.1) (some selected.2) with
      | some detail => exact hstored (by rw [hnew]; rfl)
      | none =>
        refine hshows.stored ?_
        change (foundDetail (some selected.1) (some selected.2) <|>
          dashboard.selectedWorkflow).isSome = true at hsome
        rw [hnew] at hsome
        exact hsome
    · have hnow := hdetails hsettled
      change (foundDetail (some selected.1) (some selected.2) <|> dashboard.selectedWorkflow) = _
      cases hnew : foundDetail (some selected.1) (some selected.2) with
      | some detail => exact hnew.symm.trans hnow
      | none =>
        -- the workflow is not stored, so that no details of it were shown before
        have hmissing : (store.getWorkflow query.selectedWorkflowId).isSome = false := by
          rw [← detailsIn_isSome, ← hnow, hnew]
          rfl
        have hold : dashboard.selectedWorkflow = none := by
          cases hshown : dashboard.selectedWorkflow with
          | none => rfl
          | some detail =>
            have hsome := hshows.stored (by rw [hshown]; rfl)
            exact absurd (hsome.symm.trans hmissing) (by simp)
        rw [hold, ← hnow, hnew]
        rfl

theorem PhaseHolds.sendOther (hselected : query.selectedWorkflowId ≠ "")
    (notification : OperatorDashboardNotification) {dashboard : OperatorDashboard}
    (hshows : ShowsStored query store dashboard)
    (hdetails : settled (some query.selectedWorkflowId) →
      dashboard.selectedWorkflow = detailsIn query store)
    {response : GetOperatorDashboardResponse} (hnone : response.selectedWorkflow = none)
    (hid : response.selectedWorkflowId = query.selectedWorkflowId)
    (hlisted : settled none → Listed bindings query store (dashboardOf response))
    (hmessage : message.payload = response) :
    PhaseHolds bindings query store settled
      (receivePage browser (some dashboard) (.dashboardUpdate notification) message) .waiting := by
  have hkept : ((dashboardOf response).selectedWorkflow <|> dashboard.selectedWorkflow) =
      dashboard.selectedWorkflow := by
    rw [dashboardOf, hnone]
    rfl
  have hnot : response.selectedWorkflowId ≠ "" := hid ▸ hselected
  rw [receivePage_update hprintable, hmessage]
  refine .waiting rfl ⟨(if_pos hnot).trans hid, fun hsome => hshows.stored ?_⟩
    (fun hsettled => hkept.trans (hdetails hsettled)) fun hsettled =>
      ⟨(hlisted hsettled).workflows, (hlisted hsettled).stats, (hlisted hsettled).connectors⟩
  rw [← hkept]
  exact hsome

end Received

section Steps

variable {ends : Ends}

/-- While it builds a page the stream keeps its place in the feed. -/
theorem DashboardStream.step_busy {w : World} {stream : DashboardStream}
    (hphase : stream.phase ≠ .opening) (hbusy : stream.phase ≠ .waiting) :
    (stream.step ends query w).phase ≠ .opening ∧
    (stream.step ends query w).lastEventId = stream.lastEventId ∧
      (stream.step ends query w).eventIds = stream.eventIds := by
  obtain ⟨phase, lastEventId, eventIds, sent, shown⟩ := stream
  cases phase with
  | opening => exact absurd rfl hphase
  | measuring page => exact ⟨by simp [DashboardStream.step], rfl, rfl⟩
  | listing page response =>
    simp only [DashboardStream.step]
    split_ifs
    · exact ⟨by simp, rfl, rfl⟩
    · exact ⟨by simp [DashboardStream.send], rfl, rfl⟩
  | selecting page response rest =>
    cases rest with
    | ret selected => exact ⟨by simp [DashboardStream.step, DashboardStream.send], rfl, rfl⟩
    | call read k => exact ⟨by simp [DashboardStream.step], rfl, rfl⟩
  | waiting => exact absurd rfl hbusy

theorem DashboardStream.sent_step (w : World) (stream : DashboardStream) :
    ∃ messages, (stream.step ends query w).sent = stream.sent ++ messages := by
  obtain ⟨phase, lastEventId, eventIds, sent, shown⟩ := stream
  cases phase with
  | opening => exact ⟨[], (List.append_nil _).symm⟩
  | measuring page => exact ⟨[], (List.append_nil _).symm⟩
  | listing page response =>
    simp only [DashboardStream.step]
    split_ifs
    · exact ⟨[], (List.append_nil _).symm⟩
    · exact ⟨_, rfl⟩
  | selecting page response rest =>
    cases rest with
    | ret selected => exact ⟨_, rfl⟩
    | call read k => exact ⟨[], (List.append_nil _).symm⟩
  | waiting =>
    simp only [DashboardStream.step]
    split <;> exact ⟨[], (List.append_nil _).symm⟩

theorem DashboardStream.sent_printable {w : World} (stream : DashboardStream)
    (h : ∀ message ∈ (stream.step ends query w).sent, message.Printable) :
    ∀ message ∈ stream.sent, message.Printable := by
  obtain ⟨messages, hsent⟩ := @DashboardStream.sent_step query ends w stream
  intro message hmessage
  exact h message (hsent ▸ List.mem_append_left _ hmessage)

theorem PhaseHolds.step (hselected : query.selectedWorkflowId ≠ "")
    {w : World} {stream : DashboardStream} (hphase : stream.phase ≠ .opening)
    (hbusy : stream.phase ≠ .waiting)
    (hprintable : ∀ message ∈ (stream.step ends query w).sent, message.Printable)
    (h : PhaseHolds ends.bindings query w.store settled stream.shown stream.phase) :
    PhaseHolds ends.bindings query w.store settled (stream.step ends query w).shown
      (stream.step ends query w).phase := by
  obtain ⟨phase, lastEventId, eventIds, sent, shown⟩ := stream
  have hid : resolveSelectedWorkflowId query.selectedWorkflowId
      (workflowSummaries w.store query.workflowQuery query.workflowPageSize) =
        query.selectedWorkflowId :=
    Operator.selectedId_of_selected w.store query hselected
  cases h with
  | opening => exact absurd rfl hphase
  | measuring hfinds => exact .listing hfinds rfl fun _ => ⟨rfl, rfl⟩
  | @listing page response hfinds hnone hstarted =>
    have hlisted : settled none → Listed ends.bindings query w.store (dashboardOf { response with
        workflows := summariesIn query w.store
        selectedWorkflowId := query.selectedWorkflowId }) :=
      fun hsettled => ⟨rfl, (hstarted hsettled).stats, (hstarted hsettled).connectors⟩
    simp only [DashboardStream.step, hid] at hprintable ⊢
    by_cases hselects : page.Selects query.selectedWorkflowId
    · rw [if_pos hselects]
      refine .selecting ?_ rfl hlisted (.start _ _)
      cases page with
      | dashboard => exact Or.inl rfl
      | dashboardUpdate notification =>
        obtain ⟨dashboard, hshown, hshows, -⟩ := hfinds
        exact Or.inr ⟨dashboard, hshown, hshows⟩
    · rw [if_neg hselects] at hprintable ⊢
      cases page with
      | dashboard => exact absurd hselected hselects
      | dashboardUpdate notification =>
        obtain ⟨dashboard, hshown, hshows, hdetails⟩ := hfinds
        change shown = some dashboard at hshown
        subst hshown
        have hother : notification.workflowId ≠ query.selectedWorkflowId :=
          fun h => hselects ⟨hselected, h.symm⟩
        refine .sendOther (hprintable _ (List.mem_append_right _ List.mem_cons_self)) hselected
          notification hshows
          (hdetails hother) ?_ ?_ hlisted rfl
        · exact hnone
        · rfl
  | @selecting page response rest hpage hid hlisted hrest =>
    cases rest with
    | ret selected =>
      exact .sendSelected (hprintable _ (List.mem_append_right _ List.mem_cons_self)) hselected
        hpage hid hlisted hrest rfl
    | call read k => exact .selecting hpage hid hlisted hrest.read
  | waiting => exact absurd rfl hbusy

end Steps

end Shown

/-- No event between two events of the stream was missed. -/
def Consecutive (eventIds : List Nat) : Prop :=
  eventIds.IsChain fun earlier later => later = earlier + 1

instance (eventIds : List Nat) : Decidable (Consecutive eventIds) :=
  inferInstanceAs (Decidable (eventIds.IsChain _))

theorem consecutive_concat {eventIds : List Nat} {last eventId : Nat}
    (hlast : eventIds.getLast? = some last) (h : Consecutive (eventIds ++ [eventId])) :
    Consecutive eventIds ∧ eventId = last + 1 := by
  obtain ⟨hfirst, -, hstep⟩ := List.isChain_append.mp h
  exact ⟨hfirst, hstep last hlast eventId rfl⟩

section Watching

variable {ι : Type} {env : Environment} {ends : Ends} {query : GetOperatorDashboardRequest}
variable {base : Nat}
  {log : List (Op × World)}
  {w : World} {unannounced : ι → List WorkflowId} {stream : DashboardStream}

/-- The announcements that the stream has not seen, where `base` is the id of the last event before. -/
def unseen (env : Environment) (base : Nat) (log : List (Op × World)) (stream : DashboardStream) :
    List WorkflowId :=
  ((announcing env).news log).drop (stream.lastEventId - base)

structure Watching (env : Environment) (ends : Ends) (query : GetOperatorDashboardRequest)
    (base : Nat) (log : List (Op × World)) (w : World) (unannounced : ι → List WorkflowId)
    (stream : DashboardStream) : Prop where
  registered : Registered w
  latest : w.feed.latestEventId = base + ((announcing env).news log).length
  numbered : ∀ event ∈ w.feed.events, base < event.eventId →
    ((announcing env).news log)[event.eventId - base - 1]? = some event.workflowId
  behind : stream.lastEventId ≤ w.feed.latestEventId
  started : stream.phase ≠ .opening →
    base ≤ stream.lastEventId ∧ stream.eventIds.getLast? = some stream.lastEventId
  holds : NeverPrunes log → Consecutive stream.eventIds →
    (∀ message ∈ stream.sent, message.Printable) →
    PhaseHolds ends.bindings query w.store
      (fun about => Announcing.Settled about unannounced (unseen env base log stream))
      stream.shown stream.phase

theorem feed_of_quiet {op : Op} (h : announcedWorkflow op = none) :
    (handle env op w).2.feed = w.feed := by
  cases op with
  | publish id => exact absurd h (by simp [announcedWorkflow])
  | _ => rfl

theorem getWorkflow_kept {op : Op} {id : WorkflowId} (h : (w.store.getWorkflow id).isSome) :
    ((handle env op w).2.store.getWorkflow id).isSome := by
  cases op with
  | upsertWorkflow r =>
    change ((w.store.upsertWorkflow r).getWorkflow id).isSome = true
    rw [Store.getWorkflow_upsertWorkflow]
    split_ifs
    · rfl
    · exact h
  | _ => exact h

theorem summaries_unseen {op : Op} (hop : NotPruning op) (h : writtenWorkflow op = none) :
    summariesIn query (handle env op w).2.store = summariesIn query w.store := by
  cases op with
  | upsertWorkflow r => exact absurd h (by simp [writtenWorkflow])
  | pruneStaleBootData before => exact absurd rfl (hop before)
  | _ => rfl

theorem stats_unseen {op : Op} (hop : NotPruning op) (h : writtenWorkflow op = none)
    (bindings : List ConnectorBinding) (now : ℤ) :
    populateDashboardStats bindings (handle env op w).2.store now =
      populateDashboardStats bindings w.store now := by
  cases op with
  | upsertWorkflow r => exact absurd h (by simp [writtenWorkflow])
  | writeEvent id row => exact absurd h (by simp [writtenWorkflow])
  | writePlanVersion id row => exact absurd h (by simp [writtenWorkflow])
  | pruneStaleBootData before => exact absurd rfl (hop before)
  | _ => rfl

theorem valueAt_store {β : Type} (p : Program Operator.storeReads β) :
    p.valueAt (fun (read : Read) (w : World) => read.answer w.store) w =
      p.valueAt Read.answer w.store := by
  induction p with
  | ret b => rfl
  | call read k ih => exact ih _

variable [DecidableEq ι]

theorem Watching.unnoticed (h : Watching env ends query base log w unannounced stream) {op : Op}
    (hop : NotPruning op) (i : ι) :
    Unnoticed query w.store (handle env op w).2.store
      (fun about => Announcing.Settled about unannounced (unseen env base log stream))
      (fun about => Announcing.Settled about
        (Function.update unannounced i ((announcing env).next (unannounced i) op))
        (unseen env base (log ++ [(op, (handle env op w).2)]) stream)) := by
  have hseen : stream.lastEventId - base ≤ ((announcing env).news log).length := by
    have hlatest := h.latest
    have hbehind := h.behind
    omega
  have hquiet : Announcing.Settled none
      (Function.update unannounced i ((announcing env).next (unannounced i) op))
      (unseen env base (log ++ [(op, (handle env op w).2)]) stream) →
        writtenWorkflow op = none := by
    intro hsettled
    have hnone := ((announcing env).settled_before hseen hsettled).2
    cases hwrites : writtenWorkflow op with
    | none => rfl
    | some k => exact absurd rfl (hnone k hwrites).1
  constructor
  · exact fun about hsettled => ((announcing env).settled_before hseen hsettled).1
  · exact fun hsettled => summaries_unseen hop (hquiet hsettled)
  · exact fun hsettled bindings now => stats_unseen hop (hquiet hsettled) bindings now
  · intro hsettled β P p hreads
    have hother := ((announcing env).settled_before hseen hsettled).2
    have hvalue := (announcing env).valueAt_step (s := w) hreads hop hother
    rw [valueAt_store, valueAt_store] at hvalue
    exact hvalue
  · exact getWorkflow_kept

theorem Watching.call (h : Watching env ends query base log w unannounced stream) {op : Op} {i : ι}
    (hallows : (announcer env).allows (unannounced i) op) :
    (announcer env).replies op (handle env op w).1 ∧
      Watching env ends query base (log ++ [(op, (handle env op w).2)]) (handle env op w).2
        (Function.update unannounced i
          ((announcer env).next (unannounced i) op (handle env op w).1)) stream := by
  obtain ⟨hreply, hregistered⟩ := registered_step h.registered hallows
  have hlatest := h.latest
  have hbehind := h.behind
  have hholds : NeverPrunes (log ++ [(op, (handle env op w).2)]) → Consecutive stream.eventIds →
      (∀ message ∈ stream.sent, message.Printable) →
      PhaseHolds ends.bindings query (handle env op w).2.store
        (fun about => Announcing.Settled about
          (Function.update unannounced i
            ((announcer env).next (unannounced i) op (handle env op w).1))
          (unseen env base (log ++ [(op, (handle env op w).2)]) stream)) stream.shown
            stream.phase := by
    intro hprune hids hprintable
    have hold :=
      h.holds (fun entry hentry => hprune entry (List.mem_append_left _ hentry)) hids hprintable
    exact hold.unnoticed
      (h.unnoticed (hprune _ (List.mem_append_right _ (List.mem_singleton.mpr rfl))) i)
  refine ⟨hreply, ?_⟩
  cases hannounced : announcedWorkflow op with
  | none =>
    have hnews : (announcing env).news (log ++ [(op, (handle env op w).2)]) =
        (announcing env).news log := by
      rw [Announcing.news_append]
      simp [Announcing.news, announcing, hannounced]
    refine ⟨hregistered, ?_, ?_, ?_, h.started, hholds⟩
    · rw [hnews, feed_of_quiet hannounced]
      exact hlatest
    · rw [hnews, feed_of_quiet hannounced]
      exact h.numbered
    · rw [feed_of_quiet hannounced]
      exact hbehind
  | some id =>
    obtain rfl : op = .publish id := by
      cases op with
      | publish other => exact congrArg Op.publish (Option.some.inj hannounced)
      | _ => exact absurd hannounced (by simp [announcedWorkflow])
    have hnews : (announcing env).news (log ++ [(.publish id, (handle env (.publish id) w).2)]) =
        (announcing env).news log ++ [id] := by
      rw [Announcing.news_append]
      rfl
    refine ⟨hregistered, ?_, ?_, ?_, h.started, hholds⟩
    · rw [hnews, List.length_append]
      change w.feed.latestEventId + 1 = _
      rw [hlatest, List.length_singleton, Nat.add_assoc]
    · intro event hevent hbase
      rw [hnews]
      rcases mem_publish hevent with hold | rfl
      · have hsame := h.numbered event hold hbase
        obtain ⟨hlt, -⟩ := List.getElem?_eq_some_iff.mp hsame
        rw [List.getElem?_append_left hlt]
        exact hsame
      · have hindex : w.feed.latestEventId + 1 - base - 1 = ((announcing env).news log).length := by
          omega
        change ((announcing env).news log ++ [id])[w.feed.latestEventId + 1 - base - 1]? = some id
        rw [hindex, List.getElem?_concat_length]
    · change stream.lastEventId ≤ w.feed.latestEventId + 1
      omega

omit [DecidableEq ι] in
theorem waitForUpdate_some {feed : UpdateFeed} {after : Nat} {event : WorkflowUpdateEvent}
    (h : waitForUpdate feed after = some event) : event ∈ feed.events ∧ after < event.eventId := by
  unfold waitForUpdate at h
  split_ifs at h
  exact ⟨List.mem_of_find?_eq_some h, by simpa using List.find?_some h⟩

omit [DecidableEq ι] in
theorem Watching.received (h : Watching env ends query base log w unannounced stream)
    (hwaiting : stream.phase = .waiting) {event : WorkflowUpdateEvent}
    (hevent : waitForUpdate w.feed stream.lastEventId = some event)
    (hnext : event.eventId = stream.lastEventId + 1)
    (hholds : PhaseHolds ends.bindings query w.store
      (fun about => Announcing.Settled about unannounced (unseen env base log stream)) stream.shown
      stream.phase) :
    PhaseHolds ends.bindings query w.store (fun about => Announcing.Settled about unannounced
        (((announcing env).news log).drop (event.eventId - base))) stream.shown
      (.measuring
        (.dashboardUpdate { eventId := event.eventId, workflowId := event.workflowId })) := by
  obtain ⟨hmem, hafter⟩ := waitForUpdate_some hevent
  obtain ⟨hbase, -⟩ := h.started (by rw [hwaiting]; simp)
  have hindex : event.eventId - base - 1 = stream.lastEventId - base := by omega
  have hwhich := h.numbered event hmem (by omega)
  rw [hindex] at hwhich
  obtain ⟨hlt, hget⟩ := List.getElem?_eq_some_iff.mp hwhich
  have hunseen : unseen env base log stream =
      event.workflowId :: ((announcing env).news log).drop (event.eventId - base) := by
    have hdrop : event.eventId - base = stream.lastEventId - base + 1 := by omega
    rw [unseen, List.drop_eq_getElem_cons hlt, hget, hdrop]
  rw [hwaiting, hunseen] at hholds
  cases hholds with
  | waiting hshown hshows hdetails _ =>
    refine .measuring ⟨_, hshown, hshows, fun hother hsettled => hdetails fun k hk => ?_⟩
    obtain ⟨hdue, hnot⟩ := hsettled k hk
    refine ⟨hdue, fun hmem => ?_⟩
    rcases List.mem_cons.mp hmem with hsame | hlater
    · rcases hk with hnone | hkey
      · exact absurd hnone (by simp)
      · exact hother (hsame.symm.trans (Option.some.inj hkey).symm)
    · exact hnot hlater

omit [DecidableEq ι] in
theorem Watching.look (hselected : query.selectedWorkflowId ≠ "")
    (h : Watching env ends query base log w unannounced stream) :
    Watching env ends query base log w unannounced (stream.step ends query w) := by
  have hlatest := h.latest
  by_cases hopening : stream.phase = .opening
  · have hstep : stream.step ends query w =
        { stream with
          phase := .measuring .dashboard
          lastEventId := w.feed.latestEventId
          eventIds := [w.feed.latestEventId] } := by
      unfold DashboardStream.step
      rw [hopening]
    rw [hstep]
    refine ⟨h.registered, hlatest, h.numbered, Nat.le_refl _, fun _ =>
      ⟨?_, rfl⟩, fun _ _ _ => .measuring trivial⟩
    change base ≤ w.feed.latestEventId
    omega
  by_cases hwaiting : stream.phase = .waiting
  · cases hevent : waitForUpdate w.feed stream.lastEventId with
    | none =>
      have hstep : stream.step ends query w = stream := by
        unfold DashboardStream.step
        rw [hwaiting, hevent]
      rw [hstep]
      exact h
    | some event =>
      have hstep : stream.step ends query w =
          { stream with
            phase :=
              .measuring
                (.dashboardUpdate { eventId := event.eventId, workflowId := event.workflowId })
            lastEventId := event.eventId
            eventIds := stream.eventIds ++ [event.eventId] } := by
        unfold DashboardStream.step
        rw [hwaiting, hevent]
      obtain ⟨hmem, hafter⟩ := waitForUpdate_some hevent
      obtain ⟨hbase, hlast⟩ := h.started hopening
      rw [hstep]
      refine ⟨h.registered, hlatest, h.numbered, h.registered.events event hmem,
        fun _ => ⟨?_, ?_⟩, ?_⟩
      · change base ≤ event.eventId
        omega
      · exact List.getLast?_concat
      · intro hprune hids hprintable
        obtain ⟨hold, hnext⟩ := consecutive_concat hlast hids
        exact h.received hwaiting hevent hnext (h.holds hprune hold hprintable)
  · obtain ⟨hphase, hlast, hids⟩ := @DashboardStream.step_busy query ends w stream hopening hwaiting
    refine ⟨h.registered, hlatest, h.numbered,
      ?_, fun _ => ?_, fun hprune hconsecutive hprintable => ?_⟩
    · rw [hlast]
      exact h.behind
    · rw [hlast, hids]
      exact h.started hopening
    · rw [hids] at hconsecutive
      unfold unseen
      rw [hlast]
      exact (h.holds hprune hconsecutive (stream.sent_printable hprintable)).step hselected
        hopening hwaiting hprintable

omit [DecidableEq ι] in
theorem Watching.start (h : Registered w) :
    Watching env ends query w.feed.latestEventId [] w (fun _ : ι => []) {} := by
  refine ⟨h, rfl, fun event hevent hlater => ?_, Nat.zero_le _, fun hopening => absurd rfl hopening,
    fun _ _ _ => .opening⟩
  have hle := h.events event hevent
  omega

omit [DecidableEq ι] in
theorem Watching.caughtUp (hselected : query.selectedWorkflowId ≠ "")
    (h : Watching env ends query base log w unannounced stream) (hdone : ∀ i, unannounced i = [])
    (hprune : NeverPrunes log) (hwaiting : stream.phase.isWaiting = true)
    (hhandled : stream.lastEventId = w.feed.latestEventId) (hids : Consecutive stream.eventIds)
    (hprintable : ∀ message ∈ stream.sent, message.Printable) :
    ∃ now, stream.shown = some (dashboardOf (buildDashboard ends.bindings w.store now query)) := by
  have hunseen : unseen env base log stream = [] := by
    have hlatest := h.latest
    rw [unseen, hhandled, hlatest, Nat.add_sub_cancel_left, List.drop_length]
  have hsettled : ∀ about, Announcing.Settled about unannounced (unseen env base log stream) := by
    intro about k _
    rw [hunseen]
    exact ⟨fun i => by rw [hdone i]; exact List.not_mem_nil, List.not_mem_nil⟩
  have hphase : stream.phase = .waiting := by
    cases hphase : stream.phase with
    | waiting => rfl
    | _ => exact absurd hwaiting (by simp [hphase, StreamPhase.isWaiting])
  have hholds := h.holds hprune hids hprintable
  rw [hphase] at hholds
  cases hholds with
  | @waiting dashboard hshown hshows hdetails hlisted =>
    refine ⟨dashboard.serverTimeUnixMs, ?_⟩
    rw [hshown, buildDashboard_selected hselected]
    have hdetails := hdetails (hsettled _)
    have hlisted := hlisted (hsettled _)
    obtain ⟨serverTimeUnixMs, stats, workflows, connectors, selectedWorkflowId, selectedWorkflow⟩ :=
      dashboard
    obtain rfl : selectedWorkflowId = query.selectedWorkflowId := hshows.selected
    obtain rfl : workflows = summariesIn query w.store := hlisted.workflows
    obtain rfl : selectedWorkflow = detailsIn query w.store := hdetails
    obtain rfl : stats = populateDashboardStats ends.bindings w.store serverTimeUnixMs :=
      hlisted.stats
    obtain rfl : connectors = populateConnectorBindings ends.bindings := hlisted.connectors
    rfl

end Watching

theorem announced_of_ended {ι : Type} {env : Environment} {left : ι → Service Answer}
    {unannounced : ι → List WorkflowId}
    (hleft : ∀ i, Program.Obeys (announcer env) (fun _ unannounced => unannounced = [])
      (unannounced i) (left i))
    (hended : ∀ i, ∃ answer, left i = pure answer) (i : ι) : unannounced i = [] := by
  obtain ⟨answer, hanswer⟩ := hended i
  have hend := hleft i
  rw [hanswer] at hend
  exact hend

/-- Once all requests have ended and the stream waits after the last event of the feed, the console
shows what a query of the dashboard at the server time of the last message would show, unless an
event of the stream was missed or a message could not be printed. -/
theorem console_catches_up {ι : Type} [DecidableEq ι] (env : Environment) (bootId : String)
    (clock : Nat → Int) (log : List (Op × World)) (w : World)
    (before : Lifetimes env NamesWorkflow (.initial bootId clock) log w) (requests : ι → Request)
    (hnames : ∀ i, NamesWorkflow (requests i)) (ends : Ends) (query : GetOperatorDashboardRequest)
    (hselected : query.selectedWorkflowId ≠ "") (calls : List (Op × World))
    (left : ι → Service Answer) (t : World) (stream : DashboardStream)
    (run : Watched (handle env) (DashboardStream.step ends query)
      (fun i => (requests i).program env) w {} calls left t stream)
    (hprune : NeverPrunes calls) (hended : ∀ i, ∃ answer, left i = pure answer)
    (hwaiting : stream.phase.isWaiting = true)
    (hhandled : stream.lastEventId = t.feed.latestEventId) (hids : Consecutive stream.eventIds)
    (hprintable : ∀ message ∈ stream.sent, message.Printable) :
    ∃ now, stream.shown = some (dashboardOf (buildDashboard ends.bindings t.store now query)) := by
  obtain ⟨unannounced, hwatching, hleft⟩ := run.preserves (M := fun _ => announcer env)
    (Watching env ends query w.feed.latestEventId)
    (fun log w unannounced stream i op h hallows => h.call hallows)
      (fun log w unannounced stream h => h.look hselected)
    (fun i => Request.program_announces (hnames i)) [] (.start before.registered)
  exact hwatching.caughtUp hselected (announced_of_ended hleft hended) hprune hwaiting hhandled hids
    hprintable

def watchedQuery : GetOperatorDashboardRequest := { selectedWorkflowId := "w" }

/-- A queue is connected, and the clocks count the messages. -/
def watchedEnds : Ends where
  bindings := [{ id := "orders", kind := .queueConsumer, displayName := "Orders",
                 target := "queue://orders" }]
  browser := Console.utcBrowser
  builtAt := fun n => n
  readAt := fun n => n

def prunes : Op → Bool
  | .pruneStaleBootData _ => true
  | _ => false

theorem neverPrunes_of_all {log : List (Op × World)}
    (h : log.all (fun entry => !prunes entry.1) = true) :
    NeverPrunes log := by
  intro entry hentry recordedBefore hprune
  have hnot := List.all_eq_true.mp h entry hentry
  rw [hprune] at hnot
  exact absurd hnot (by simp [prunes])

/-- The stream opens, a submission is served while it reads, and then it catches up. -/
theorem console_catches_up_submitted : ∃ calls left t stream now,
    Watched (handle openEnvironment) (DashboardStream.step watchedEnds watchedQuery)
      (fun _ : Unit =>
        (Request.submit { config := { id := "w" } }).program openEnvironment) newDatabase {}
      calls left t stream ∧
    stream.eventIds = [0, 1, 2, 3, 4] ∧
    stream.shown = some (dashboardOf
      (buildDashboard watchedEnds.bindings t.store now watchedQuery)) := by
  have hfits :
    (Program.runWatched (handle openEnvironment) (DashboardStream.step watchedEnds watchedQuery)
      (List.replicate 5 none ++ (List.replicate 18 [some (), none]).flatten ++
        List.replicate 40 none)
      (fun _ => (Request.submit { config := { id := "w" } }).program openEnvironment) newDatabase
      {}).any
      (fun r => r.1.all (fun entry => !prunes entry.1) = true ∧ (r.2.1 ()).answer?.isSome = true ∧
        r.2.2.2.phase.isWaiting = true ∧ r.2.2.2.lastEventId = r.2.2.1.feed.latestEventId ∧
        r.2.2.2.eventIds = [0, 1, 2, 3,
          4] ∧ ∀ message ∈ r.2.2.2.sent, message.Printable) = true := by
    decide +kernel
  obtain ⟨calls, left, t, stream, run, hprune, hended, hwaiting, hhandled, hids, hprintable⟩ :=
    Program.exists_watched hfits
  have hconsecutive : Consecutive stream.eventIds := by
    rw [hids]
    decide
  obtain ⟨now, hshown⟩ :=
    console_catches_up openEnvironment "boot" (fun reading => reading) [] newDatabase .start
    (fun _ => .submit { config := { id := "w" } }) (fun _ => show "w" ≠ "" by decide) watchedEnds
      watchedQuery (by decide)
    calls left t stream run (neverPrunes_of_all hprune) (fun _ => Program.exists_of_answer? hended)
      hwaiting hhandled
    hconsecutive hprintable
  exact ⟨calls, left, t, stream, now, run, hids, hshown⟩

end TaskOrchestrator.System
