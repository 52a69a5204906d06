import TaskOrchestrator.Console.Details
import TaskOrchestrator.Library.Machine

/-!
# The dashboard of the console

The console keeps a dashboard and applies the updates of its subscription to it. An update without
the details of a workflow changes the selected id and keeps the details shown before. A message with
a time beyond the range of dates is not applied.
-/

namespace TaskOrchestrator.Console

open Protocol Library ControlPlane Http Operator

set_option autoImplicit false

/-- How a `bool` of a message is printed: the default value is left out. -/
def jsonBool (value : Bool) : Option Bool := if value then some true else none

def foundDetail (selectedWorkflow : Option GetWorkflowHistoryResponse)
    (selectedPlanDiff : Option GetPlanDiffResponse) : Option WorkflowDetail :=
  match selectedWorkflow with
  | none => none
  | some history =>
    if jsonBool history.ok ≠ some true then none
    else some
      { summary := history.workflow.summary
        config := history.workflow.config
        latestResponse := history.workflow.latestResponse
        planVersions := history.planVersions
        planDiff := (selectedPlanDiff.map GetPlanDiffResponse.diff).getD {}
        events := history.events
        audits := history.auditEntries }

/-- The details are kept as they are in the message, once they can be displayed. -/
def mapWorkflowDetail (browser : Browser) (now : ℕ)
    (selectedWorkflow : Option GetWorkflowHistoryResponse)
    (selectedPlanDiff : Option GetPlanDiffResponse) : Option (Option WorkflowDetail) :=
  match foundDetail selectedWorkflow selectedPlanDiff with
  | none => some none
  | some detail => (displayWorkflow browser now detail).map fun _ => some detail

structure OperatorDashboard where
  serverTimeUnixMs : Int
  stats : OperatorDashboardStats
  workflows : List WorkflowSummary
  connectors : List OperatorConnectorBinding
  selectedWorkflowId : WorkflowId
  selectedWorkflow : Option WorkflowDetail

def dashboardOf (payload : GetOperatorDashboardResponse) : OperatorDashboard where
  serverTimeUnixMs := payload.serverTimeUnixMs
  stats := payload.stats
  workflows := payload.workflows
  connectors := payload.connectors
  selectedWorkflowId := payload.selectedWorkflowId
  selectedWorkflow := foundDetail payload.selectedWorkflow payload.selectedPlanDiff

/-- `mapDashboardResponse` and `mapDashboardStreamUpdate`, which throw when a time cannot be
printed. -/
def mapDashboardResponse (browser : Browser) (now : ℕ) (payload : GetOperatorDashboardResponse) :
    Option OperatorDashboard := do
  let _ ← formatDateTime browser (parseNumber payload.serverTimeUnixMs)
  let _ ← payload.workflows.mapM (mapWorkflowSummary browser)
  let selectedWorkflow ← mapWorkflowDetail browser now payload.selectedWorkflow
    payload.selectedPlanDiff
  return { dashboardOf payload with selectedWorkflow }

def applyDashboardUpdate (update : OperatorDashboard)
    (currentDashboard : Option OperatorDashboard) :
    Option OperatorDashboard :=
  currentDashboard.map fun current =>
    { serverTimeUnixMs := update.serverTimeUnixMs
      stats := update.stats
      workflows := update.workflows
      connectors := update.connectors
      selectedWorkflowId :=
        if update.selectedWorkflowId ≠ "" then update.selectedWorkflowId
          else current.selectedWorkflowId
      selectedWorkflow := update.selectedWorkflow <|> current.selectedWorkflow }

/-- The listener for a whole dashboard. One that cannot be mapped is not shown. -/
def onDashboardMessage (browser : Browser) (now : ℕ) (payload : GetOperatorDashboardResponse)
    (shown : Option OperatorDashboard) : Option OperatorDashboard :=
  match mapDashboardResponse browser now payload with
  | some dashboard => some dashboard
  | none => shown

/-- The listener for an update. One that says that it failed is not applied. -/
def onDashboardUpdateMessage (browser : Browser) (now : ℕ) (payload : GetOperatorDashboardResponse)
    (shown : Option OperatorDashboard) : Option OperatorDashboard :=
  if jsonBool payload.ok = some false then shown
  else
    match mapDashboardResponse browser now payload with
    | some update => applyDashboardUpdate update shown
    | none => shown

/-- The store and the server's clock when a message is built, and the console's clock when it is
read. -/
structure Moment where
  store : Store
  now : Int := 0
  readAt : ℕ := 0

inductive StreamEvent where
  | dashboard (moment : Moment)
  | dashboardUpdate (moment : Moment) (notification : OperatorDashboardNotification)

def receive (browser : Browser) (bindings : List ConnectorBinding)
    (request : GetOperatorDashboardRequest) (shown : Option OperatorDashboard) :
    StreamEvent → Option OperatorDashboard
  | .dashboard moment =>
    onDashboardMessage browser moment.readAt
      (buildDashboard bindings moment.store moment.now request) shown
  | .dashboardUpdate moment notification =>
    onDashboardUpdateMessage browser moment.readAt
      (buildDashboardUpdate bindings moment.store moment.now request notification) shown

def messageTimes (now : ℕ) (serverTimeUnixMs : Int) (workflows : List WorkflowSummary)
    (detail : Option WorkflowDetail) :
    List Number :=
  [parseNumber serverTimeUnixMs] ++
    (workflows.map fun summary => parseNumber summary.updatedAtUnixMs) ++
    (detail.map (detailTimes now)).getD []

/-- The times that are printed for an update: those of the listed workflows, and those of the
selected one if the notification is about it. -/
def updateTimes (request : GetOperatorDashboardRequest) (moment : Moment)
    (notification : OperatorDashboardNotification) : List Number :=
  let selected := selectedId moment.store request
  messageTimes moment.readAt moment.now
    (workflowSummaries moment.store request.workflowQuery request.workflowPageSize)
    (if selected ≠ "" ∧ selected = notification.workflowId then
      foundDetail (some (selectedHistory moment.store selected request).1)
        (some (selectedHistory moment.store selected request).2)
    else none)

def ShowsSelected (shown : Option OperatorDashboard) : Prop :=
  ∀ dashboard ∈ shown, ∀ detail ∈ dashboard.selectedWorkflow, detail.summary.workflowId =
    dashboard.selectedWorkflowId

/-- An update has a time that cannot be printed, or selects no workflow or the one that is selected
already, or no details are shown, or it carries the details of the workflow that it selects. -/
def KeepsSelection (request : GetOperatorDashboardRequest) (shown : Option OperatorDashboard) :
    StreamEvent → Prop
  | .dashboard _ => True
  | .dashboardUpdate moment notification => ∀ dashboard ∈ shown,
    (∃ time ∈ updateTimes request moment notification, withinDates time = false) ∨
      selectedId moment.store request = "" ∨ selectedId moment.store request =
      dashboard.selectedWorkflowId ∨ dashboard.selectedWorkflow = none ∨
      (selectedId moment.store request = notification.workflowId ∧
        (moment.store.getWorkflow (selectedId moment.store request)).isSome)

section Mapped

variable {browser : Browser} {now : ℕ} {payload : GetOperatorDashboardResponse}
variable {shown : Option OperatorDashboard}

/-- A `bool` that is printed is true. -/
theorem jsonBool_ne_false (value : Bool) : jsonBool value ≠ some false := by
  cases value <;> decide

def payloadTimes (now : ℕ) (payload : GetOperatorDashboardResponse) : List Number :=
  messageTimes now payload.serverTimeUnixMs payload.workflows
    (foundDetail payload.selectedWorkflow payload.selectedPlanDiff)

theorem mapWorkflowDetail_eq {selectedWorkflow : Option GetWorkflowHistoryResponse}
    {selectedPlanDiff : Option GetPlanDiffResponse} {mapped : Option WorkflowDetail}
    (h : mapWorkflowDetail browser now selectedWorkflow selectedPlanDiff = some mapped) :
    mapped = foundDetail selectedWorkflow selectedPlanDiff := by
  unfold mapWorkflowDetail at h
  split at h
  · rename_i hfound
    rw [hfound, Option.some.inj h]
  · rename_i detail hfound
    obtain ⟨_, -, rfl⟩ := Option.map_eq_some_iff.mp h
    exact hfound.symm

theorem prints_mapWorkflowDetail (selectedWorkflow : Option GetWorkflowHistoryResponse)
    (selectedPlanDiff : Option GetPlanDiffResponse) :
    Prints (mapWorkflowDetail browser now selectedWorkflow selectedPlanDiff)
      (((foundDetail selectedWorkflow selectedPlanDiff).map (detailTimes now)).getD []) := by
  unfold mapWorkflowDetail
  cases foundDetail selectedWorkflow selectedPlanDiff with
  | none => exact Prints.pure _
  | some detail => exact (prints_displayWorkflow browser now detail).map _

theorem prints_mapDashboardResponse (payload : GetOperatorDashboardResponse) :
    Prints (mapDashboardResponse browser now payload) (payloadTimes now payload) := by
  rw [payloadTimes, messageTimes, List.append_assoc]
  exact (prints_formatDateTime browser _).bind fun _ =>
    (Prints.mapM_single (prints_mapWorkflowSummary browser) _).bind fun _ =>
      (prints_mapWorkflowDetail _ _).bind_pure

theorem mapDashboardResponse_eq {dashboard : OperatorDashboard}
    (h : mapDashboardResponse browser now payload = some dashboard) :
    dashboard = dashboardOf payload := by
  simp only [mapDashboardResponse, Option.bind_eq_bind, Option.bind_eq_some_iff, Option.pure_def,
    Option.some.injEq] at h
  obtain ⟨-, -, -, -, selectedWorkflow, hselected, rfl⟩ := h
  rw [mapWorkflowDetail_eq hselected]
  rfl

theorem mapDashboardResponse_of_within
    (h : ∀ time ∈ payloadTimes now payload, withinDates time = true) :
    mapDashboardResponse browser now payload = some (dashboardOf payload) := by
  obtain ⟨dashboard, hmapped⟩ :=
    Option.isSome_iff_exists.mp ((prints_mapDashboardResponse payload).mpr h)
  rw [hmapped, mapDashboardResponse_eq hmapped]

theorem onDashboardMessage_cases :
    onDashboardMessage browser now payload shown = some (dashboardOf payload) ∨
      onDashboardMessage browser now payload shown = shown := by
  unfold onDashboardMessage
  cases hmapped : mapDashboardResponse browser now payload with
  | none => exact Or.inr rfl
  | some dashboard => exact Or.inl (congrArg some (mapDashboardResponse_eq hmapped))

theorem onDashboardUpdateMessage_of_within
    (h : ∀ time ∈ payloadTimes now payload, withinDates time = true) :
    onDashboardUpdateMessage browser now payload shown =
      applyDashboardUpdate (dashboardOf payload) shown := by
  rw [onDashboardUpdateMessage, if_neg (jsonBool_ne_false _), mapDashboardResponse_of_within h]

theorem onDashboardUpdateMessage_of_beyond
    (h : ∃ time ∈ payloadTimes now payload, withinDates time = false) :
    onDashboardUpdateMessage browser now payload shown = shown := by
  obtain ⟨time, htime, hbeyond⟩ := h
  have hnone : mapDashboardResponse browser now payload = none := by
    rw [← Option.not_isSome_iff_eq_none]
    intro hsome
    exact absurd (hbeyond.symm.trans ((prints_mapDashboardResponse payload).mp hsome time htime))
      Bool.false_ne_true
  rw [onDashboardUpdateMessage, if_neg (jsonBool_ne_false _), hnone]

end Mapped

section Steps

variable {browser : Browser} {bindings : List ConnectorBinding}
variable {request : GetOperatorDashboardRequest}
  {shown : Option OperatorDashboard} {now : Int}

theorem foundDetail_selectedHistory (store : Store) (workflowId : WorkflowId)
    (planDiff : Option GetPlanDiffResponse) :
    (foundDetail (some (selectedHistory store workflowId request).1) planDiff).map
      WorkflowDetail.summary =
      (store.getWorkflow workflowId).map WorkflowRecord.summary := by
  obtain ⟨hok, hworkflow⟩ := selectedHistory_fst store request workflowId
  rw [foundDetail, hok]
  cases hrecord : store.getWorkflow workflowId with
  | none => rfl
  | some record =>
    simp only [hworkflow record hrecord]
    rfl

def carriedSummary (payload : GetOperatorDashboardResponse) : Option WorkflowSummary :=
  (dashboardOf payload).selectedWorkflow.map WorkflowDetail.summary

theorem carriedSummary_buildDashboard (store : Store) :
    carriedSummary (buildDashboard bindings store now request) =
      if selectedId store request = "" then none
      else (store.getWorkflow (selectedId store request)).map WorkflowRecord.summary := by
  unfold carriedSummary buildDashboard
  by_cases hempty : selectedId store request = ""
  · have hresolved := hempty
    unfold selectedId at hresolved
    simp only [hresolved, if_pos, hempty]
    rfl
  · have hresolved := hempty
    unfold selectedId at hresolved
    simp only [hresolved, if_false, hempty]
    exact foundDetail_selectedHistory store (selectedId store request) _

theorem carriedSummary_buildDashboardUpdate (store : Store)
    (notification : OperatorDashboardNotification) :
    carriedSummary (buildDashboardUpdate bindings store now request notification) =
      if selectedId store request ≠ "" ∧ selectedId store request = notification.workflowId then
        (store.getWorkflow (selectedId store request)).map WorkflowRecord.summary
      else none := by
  unfold carriedSummary buildDashboardUpdate
  change (dashboardOf (if selectedId store request ≠ "" ∧
    selectedId store request = notification.workflowId
    then _ else _)).selectedWorkflow.map _ = _
  by_cases habout : selectedId store request ≠ "" ∧
    selectedId store request = notification.workflowId
  · rw [if_pos habout, if_pos habout]
    exact foundDetail_selectedHistory store (selectedId store request) _
  · rw [if_neg habout, if_neg habout]
    rfl

theorem workflowId_of_carried {store : Store} {workflowId : WorkflowId} {summary : WorkflowSummary}
    (h : (store.getWorkflow workflowId).map WorkflowRecord.summary = some summary) :
    summary.workflowId = workflowId := by
  obtain ⟨record, hrecord, rfl⟩ := Option.map_eq_some_iff.mp h
  exact Store.workflowId_of_getWorkflow hrecord

theorem payloadTimes_buildDashboardUpdate (moment : Moment)
    (notification : OperatorDashboardNotification) :
    payloadTimes moment.readAt
    (buildDashboardUpdate bindings moment.store moment.now request notification) =
      updateTimes request moment notification := by
  by_cases habout : selectedId moment.store request ≠ "" ∧
    selectedId moment.store request = notification.workflowId
  · have hresolved := habout
    unfold selectedId at hresolved
    simp only [payloadTimes, updateTimes, buildDashboardUpdate, if_pos habout, if_pos hresolved]
    rfl
  · have hresolved := habout
    unfold selectedId at hresolved
    simp only [payloadTimes, updateTimes, buildDashboardUpdate, if_neg habout, if_neg hresolved]
    rfl

theorem showsSelected_of_dashboard (h : ShowsSelected shown) (moment : Moment) :
    ShowsSelected (receive browser bindings request shown (.dashboard moment)) := by
  rcases @onDashboardMessage_cases browser moment.readAt
    (buildDashboard bindings moment.store moment.now request) shown with hnew | hsame
  · rw [receive, hnew]
    intro dashboard hdashboard detail hdetail
    obtain rfl := Option.some.inj hdashboard
    have hcarried : carriedSummary (buildDashboard bindings moment.store moment.now request) =
        some detail.summary :=
      congrArg (Option.map WorkflowDetail.summary) hdetail
    rw [carriedSummary_buildDashboard] at hcarried
    split_ifs at hcarried
    exact (workflowId_of_carried hcarried).trans
      (buildDashboard_selectedWorkflowId moment.store request _ _).symm
  · rw [receive, hsame]
    exact h

theorem receive_some (moment : Moment) (notification : OperatorDashboardNotification)
    (dashboard : OperatorDashboard)
    (h : ∀ time ∈ updateTimes request moment notification, withinDates time = true) :
    ∃ next, receive browser bindings request (some dashboard)
      (.dashboardUpdate moment notification) = some next ∧
      next.selectedWorkflowId =
        (if selectedId moment.store request ≠ "" then selectedId moment.store request
          else dashboard.selectedWorkflowId) ∧
      next.selectedWorkflow.map WorkflowDetail.summary =
        (carriedSummary
          (buildDashboardUpdate bindings moment.store moment.now request notification) <|>
          dashboard.selectedWorkflow.map WorkflowDetail.summary) := by
  rw [← @payloadTimes_buildDashboardUpdate bindings] at h
  refine ⟨_, onDashboardUpdateMessage_of_within h, ?_, ?_⟩
  · simp only [dashboardOf, buildDashboardUpdate_selectedWorkflowId]
  · rw [carriedSummary]
    cases (dashboardOf
      (buildDashboardUpdate bindings moment.store moment.now request
        notification)).selectedWorkflow <;>
      rfl

theorem receive_of_beyond {moment : Moment} {notification : OperatorDashboardNotification}
    (h : ∃ time ∈ updateTimes request moment notification, withinDates time = false) :
    receive browser bindings request shown (.dashboardUpdate moment notification) = shown := by
  rw [← @payloadTimes_buildDashboardUpdate bindings] at h
  exact onDashboardUpdateMessage_of_beyond h

theorem within_of_not_beyond {times : List Number} (h : ¬∃ time ∈ times, withinDates time = false) :
    ∀ time ∈ times, withinDates time = true := by
  intro time htime
  rw [← Bool.not_eq_false]
  exact fun hbeyond => h ⟨time, htime, hbeyond⟩

theorem receive_none (moment : Moment) (notification : OperatorDashboardNotification) :
    receive browser bindings request none (.dashboardUpdate moment notification) = none := by
  simp only [receive, onDashboardUpdateMessage, if_neg (jsonBool_ne_false _)]
  split <;> rfl

theorem showsSelected_some_iff {dashboard : OperatorDashboard} :
    ShowsSelected (some dashboard) ↔
      ∀ summary ∈ dashboard.selectedWorkflow.map WorkflowDetail.summary,
      summary.workflowId = dashboard.selectedWorkflowId := by
  simp [ShowsSelected]

theorem showsSelected_receive_iff (h : ShowsSelected shown) (event : StreamEvent) :
    ShowsSelected (receive browser bindings request shown event) ↔
      KeepsSelection request shown event := by
  cases event with
  | dashboard moment => exact iff_of_true (showsSelected_of_dashboard h moment) trivial
  | dashboardUpdate moment notification =>
    cases shown with
    | none =>
      rw [receive_none]
      exact iff_of_true (fun _ h => nomatch h) fun _ h => nomatch h
    | some dashboard =>
      by_cases hbeyond : ∃ time ∈ updateTimes request moment notification, withinDates time = false
      · rw [receive_of_beyond hbeyond]
        exact iff_of_true h fun _ _ => Or.inl hbeyond
      obtain ⟨next, hnext, hid, hsummary⟩ :=
        @receive_some browser bindings request moment notification dashboard
          (within_of_not_beyond hbeyond)
      obtain ⟨store, _, _⟩ := moment
      rw [hnext, showsSelected_some_iff, hid, hsummary, carriedSummary_buildDashboardUpdate]
      rw [showsSelected_some_iff] at h
      simp only [KeepsSelection, Option.mem_some_iff, forall_eq', hbeyond, false_or]
      by_cases hempty : selectedId store request = ""
      · refine iff_of_true ?_ (Or.inl hempty)
        rw [if_neg (fun h => h.1 hempty), if_neg (not_not.mpr hempty)]
        exact h
      · rw [if_pos hempty]
        by_cases hcarries : selectedId store request = notification.workflowId ∧
            (store.getWorkflow (selectedId store request)).isSome
        · refine iff_of_true ?_ (Or.inr (Or.inr (Or.inr hcarries)))
          obtain ⟨record, hrecord⟩ := Option.isSome_iff_exists.mp hcarries.2
          rw [if_pos ⟨hempty, hcarries.1⟩, hrecord]
          rintro summary hcarried
          obtain rfl := Option.some.inj hcarried
          exact Store.workflowId_of_getWorkflow hrecord
        · have hcarried : (if selectedId store request ≠ "" ∧
              selectedId store request = notification.workflowId then
              (store.getWorkflow (selectedId store request)).map WorkflowRecord.summary else none) =
                none := by
            split_ifs with habout
            · rw [Option.map_eq_none_iff, ← Option.not_isSome_iff_eq_none]
              exact fun hsome => hcarries ⟨habout.2, hsome⟩
            · rfl
          rw [hcarried]
          cases hshown : dashboard.selectedWorkflow with
          | none => simp
          | some detail =>
            rw [hshown] at h
            have hdetail : detail.summary.workflowId = dashboard.selectedWorkflowId :=
              h detail.summary rfl
            constructor
            · intro hall
              exact Or.inr (Or.inl ((hall detail.summary rfl).symm.trans hdetail))
            · rintro (h | h | h | h)
              · exact absurd h hempty
              · intro summary hsummary
                obtain rfl := Option.some.inj hsummary
                exact hdetail.trans h.symm
              · nomatch h
              · exact absurd h hcarries

end Steps

/-- The details shown are always those of the selected workflow just when every event of the stream
keeps the selection in this sense. -/
theorem dashboard_shows_selected_iff (browser : Browser) (bindings : List ConnectorBinding)
    (request : GetOperatorDashboardRequest) (events : List StreamEvent) :
    Throughout (receive browser bindings request) ShowsSelected none events ↔
      Meets (receive browser bindings request) (KeepsSelection request) none events := by
  have hall : Meets (receive browser bindings request) (fun _ _ => True) none events :=
    meets_of_forall _ _ fun _ _ => trivial
  refine throughout_iff_meets (fun _ h => h)
    (fun t e h _ hkeeps => (showsSelected_receive_iff h e).mpr hkeeps)
    (fun t e h _ hnot hshows => hnot ((showsSelected_receive_iff h e).mp hshows)) hall ?_
  intro dashboard hdashboard
  nomatch hdashboard

/-- A subscription that names a workflow never shows the details of another one. -/
theorem dashboard_shows_named (browser : Browser) (bindings : List ConnectorBinding)
    (request : GetOperatorDashboardRequest) (hselected : request.selectedWorkflowId ≠ "")
    (events : List StreamEvent) :
    Throughout (receive browser bindings request) ShowsSelected none events := by
  let named := fun shown : Option OperatorDashboard =>
    ∀ dashboard ∈ shown, dashboard.selectedWorkflowId = request.selectedWorkflowId
  have hall : Meets (receive browser bindings request) (fun _ _ => True) none events :=
    meets_of_forall _ _ fun _ _ => trivial
  have hnamed : ∀ shown event, named shown →
      named (receive browser bindings request shown event) := by
    intro shown event h
    cases event with
    | dashboard moment =>
      rcases @onDashboardMessage_cases browser moment.readAt
        (buildDashboard bindings moment.store moment.now request) shown with hnew | hsame
      · rw [receive, hnew]
        intro dashboard hdashboard
        obtain rfl := Option.some.inj hdashboard
        exact (buildDashboard_selectedWorkflowId moment.store request _ _).trans
          (selectedId_of_selected moment.store request hselected)
      · rw [receive, hsame]
        exact h
    | dashboardUpdate moment notification =>
      cases shown with
      | none =>
        rw [receive_none]
        exact fun _ h => nomatch h
      | some dashboard =>
        by_cases hbeyond : ∃ time ∈ updateTimes request moment notification,
          withinDates time = false
        · rw [receive_of_beyond hbeyond]
          exact h
        obtain ⟨next, hnext, hid, -⟩ :=
          @receive_some browser bindings request moment notification dashboard
            (within_of_not_beyond hbeyond)
        intro shown hshown
        obtain rfl := Option.some.inj (hnext.symm.trans hshown)
        rw [hid, selectedId_of_selected moment.store request hselected, if_pos hselected]
  have hkeeps : ∀ shown event, named shown → KeepsSelection request shown event := by
    intro shown event h
    cases event with
    | dashboard moment => trivial
    | dashboardUpdate moment notification =>
      refine fun dashboard hdashboard => Or.inr (Or.inr (Or.inl ?_))
      rw [selectedId_of_selected moment.store request hselected, h dashboard hdashboard]
  have hboth : Throughout (receive browser bindings request)
      (fun shown => ShowsSelected shown ∧ named shown) none events := by
    refine hall.throughout ⟨(fun _ h => nomatch h), fun _ h => nomatch h⟩ fun shown event h _ => ?_
    exact ⟨(showsSelected_receive_iff h.1 event).mpr (hkeeps shown event h.2),
      hnamed shown event h.2⟩
  exact hboth.mono fun _ h => h.1

def updatedInOrder (first second : WorkflowId) : Store :=
  ((Store.initial "boot").upsertWorkflow
    { summary := { workflowId := first, updatedAtUnixMs := 1 } }).upsertWorkflow
    { summary := { workflowId := second, updatedAtUnixMs := 2 } }

def overtakenEvents : List StreamEvent :=
  [.dashboard { store := updatedInOrder "b" "a" },
    .dashboardUpdate { store := updatedInOrder "a" "b" } { eventId := 1, workflowId := "a" }]

theorem withinDates_parseNumber {time : ℤ} (hlow : 0 ≤ time) (hhigh : time ≤ 8640000000000000) :
    withinDates (parseNumber time) = true := by
  have hexact : double (time : ℚ) = time := double_intCast (by rw [abs_of_nonneg hlow]; omega)
  rw [parseNumber, hexact, withinDates, finiteOrZero, Number.le_finite,
    decide_eq_true_iff, lastDate]
  exact_mod_cast hhigh

theorem within_of_bounded {times : List ℤ}
    (h : ∀ time ∈ times, 0 ≤ time ∧ time ≤ 8640000000000000) :
    ∀ time ∈ times.map parseNumber, withinDates time = true := by
  intro time htime
  obtain ⟨n, hn, rfl⟩ := List.mem_map.mp htime
  exact withinDates_parseNumber (h n hn).1 (h n hn).2

theorem run_overtakenEvents :
    runMachine (receive utcBrowser [] {}) none overtakenEvents =
      applyDashboardUpdate
        (dashboardOf (buildDashboardUpdate [] (updatedInOrder "a" "b") 0 {}
          { eventId := 1, workflowId := "a" }))
        (some (dashboardOf (buildDashboard [] (updatedInOrder "b" "a") 0 {}))) := by
  have hfirst : payloadTimes 0 (buildDashboard [] (updatedInOrder "b" "a") 0 {}) =
      [0, 2, 1, 2].map parseNumber := rfl
  have hsecond : payloadTimes 0
      (buildDashboardUpdate [] (updatedInOrder "a" "b") 0 {} { eventId := 1, workflowId := "a" }) =
        [0, 2, 1].map parseNumber := rfl
  have hdashboard : receive utcBrowser [] {} none (.dashboard { store := updatedInOrder "b" "a" }) =
      some (dashboardOf (buildDashboard [] (updatedInOrder "b" "a") 0 {})) := by
    rw [receive, onDashboardMessage, mapDashboardResponse_of_within]
    rw [hfirst]
    exact within_of_bounded (by decide)
  have hupdate := @onDashboardUpdateMessage_of_within utcBrowser 0 _
    (some (dashboardOf (buildDashboard [] (updatedInOrder "b" "a") 0 {})))
    (hsecond ▸ within_of_bounded (by decide))
  rw [overtakenEvents, runMachine, List.foldl_cons, hdashboard]
  exact hupdate

/-- The id of "b" is shown with the details of "a". -/
theorem overtaken_shows_other :
    ¬Throughout (receive utcBrowser [] {}) ShowsSelected none overtakenEvents := by
  have hid : (runMachine (receive utcBrowser [] {}) none overtakenEvents).map
      OperatorDashboard.selectedWorkflowId = some "b" := by
    rw [run_overtakenEvents]
    decide
  have hdetail : (runMachine (receive utcBrowser [] {}) none overtakenEvents).bind (fun dashboard =>
      dashboard.selectedWorkflow.map fun detail => detail.summary.workflowId) = some "a" := by
    rw [run_overtakenEvents]
    decide
  intro hthroughout
  obtain ⟨dashboard, hdashboard, hselected⟩ := Option.map_eq_some_iff.mp hid
  have hshows : ShowsSelected (runMachine (receive utcBrowser [] {}) none overtakenEvents) :=
    hthroughout.2.2
  rw [hdashboard, Option.bind_some, Option.map_eq_some_iff] at hdetail
  obtain ⟨detail, hdetail, hworkflow⟩ := hdetail
  have hsame := hshows dashboard hdashboard detail hdetail
  rw [hworkflow, hselected] at hsame
  exact absurd hsame (by decide)

end TaskOrchestrator.Console
