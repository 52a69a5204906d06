import TaskOrchestrator.Application.DashboardReads
import TaskOrchestrator.System.Isolation
import TaskOrchestrator.System.Lifetimes

/-!
# Every write is announced

Whatever a request writes under the id of a workflow, it publishes that id on the update feed
afterwards, before it ends. The feed numbers the announcements in order.
-/

namespace TaskOrchestrator.System

open Protocol Library ControlPlane
open Program (Announcing Obeys obeys_pure obeys_perform_bind)
open Operator (Read)

set_option autoImplicit false

def writtenWorkflow : Op → Option WorkflowId
  | .upsertWorkflow r => some r.summary.workflowId
  | .writeEvent id _ => some id
  | .writePlanVersion id _ => some id
  | .writeAuditEntry id _ => some id
  | _ => none

def announcedWorkflow : Op → Option WorkflowId
  | .publish id => some id
  | _ => none

def NotPruning (op : Op) : Prop := ∀ recordedBefore, op ≠ .pruneStaleBootData recordedBefore

section Reads

variable {env : Environment} {op : Op} {w : World} {id : WorkflowId}

theorem rowsOf_write {π : Type} {table : KeyedRows (HistoryRow.key (π := π))} {row : HistoryRow π}
    (h : row.workflowId ≠ id) : rowsOf id (table.put row) = rowsOf id table := by
  rw [rowsOf_put, if_neg h]

/-- A call that writes under another workflow leaves the record and the rows of this one. -/
theorem records_unseen (hop : NotPruning op) (h : writtenWorkflow op ≠ some id) :
    (handle env op w).2.store.getWorkflow id = w.store.getWorkflow id ∧
      rowsOf id (handle env op w).2.store.events = rowsOf id w.store.events ∧
      rowsOf id (handle env op w).2.store.planVersions = rowsOf id w.store.planVersions ∧
      rowsOf id (handle env op w).2.store.auditEntries = rowsOf id w.store.auditEntries := by
  have hother : ∀ {written : WorkflowId}, writtenWorkflow op = some written → written ≠ id :=
    fun hwritten heq => h (hwritten.trans (congrArg some heq))
  cases op with
  | upsertWorkflow r =>
    refine ⟨?_, rfl, rfl, rfl⟩
    change (w.store.upsertWorkflow r).getWorkflow id = _
    rw [Store.getWorkflow_upsertWorkflow, if_neg (hother rfl)]
  | writeEvent written e => exact ⟨rfl, rowsOf_write (hother rfl), rfl, rfl⟩
  | writePlanVersion written v => exact ⟨rfl, rfl, rowsOf_write (hother rfl), rfl⟩
  | writeAuditEntry written a => exact ⟨rfl, rfl, rfl, rowsOf_write (hother rfl)⟩
  | pruneStaleBootData before => exact absurd rfl (hop before)
  | _ => exact ⟨rfl, rfl, rfl, rfl⟩

theorem latestRows_congr {π : Type} {table other : KeyedRows (HistoryRow.key (π := π))}
    (h : rowsOf id other = rowsOf id table) (limit : Nat) :
    Operator.latestRows limit id other.rows = Operator.latestRows limit id table.rows := by
  have hrows : ∀ table : KeyedRows (HistoryRow.key (π := π)),
      Operator.latestRows limit id table.rows =
      if limit > 0 then
        (((rowsOf id table).insertionSort fun a b => a.sequence ≤ b.sequence).reverse.take
          limit).reverse
      else (rowsOf id table).insertionSort fun a b => a.sequence ≤ b.sequence := fun _ => rfl
  rw [hrows, hrows, h]

theorem answer_congr {read : Read} {store other : Store}
    (hrecord : other.getWorkflow read.workflowId = store.getWorkflow read.workflowId)
    (hevents : rowsOf read.workflowId other.events = rowsOf read.workflowId store.events)
    (hplans : rowsOf read.workflowId other.planVersions = rowsOf read.workflowId store.planVersions)
    (haudits : rowsOf read.workflowId other.auditEntries =
      rowsOf read.workflowId store.auditEntries) :
    read.answer other = read.answer store := by
  cases read with
  | getWorkflow id => exact hrecord
  | listEvents id limit => exact congrArg (List.map _) (latestRows_congr hevents limit)
  | listPlanVersions id limit => exact congrArg (List.map _) (latestRows_congr hplans limit)
  | listAuditEntries id limit => exact congrArg (List.map _) (latestRows_congr haudits limit)

end Reads

def announcing (env : Environment) : Announcing (T :=
  Operator.storeReads) (handle env)
    (fun read w => read.answer w.store) NotPruning WorkflowId where
  writes := writtenWorkflow
  announces := announcedWorkflow
  about read := some read.workflowId
  apart op k h := by
    cases op with
    | publish id => rfl
    | _ => exact absurd h (by simp [announcedWorkflow])
  unseen read op w hop h := by
    have hother : writtenWorkflow op ≠ some read.workflowId := fun heq => (h _ heq).2 rfl
    obtain ⟨hrecord, hevents, hplans, haudits⟩ := records_unseen hop hother
    exact answer_congr hrecord hevents hplans haudits

/-- The record has a name, and its configuration has the same. -/
def Named (r : WorkflowRecord) : Prop :=
  r.summary.workflowId ≠ "" ∧ r.config.id = r.summary.workflowId

/-- A party stores named records, and keeps a list of what it has not announced. -/
def announcer (env : Environment) : Monitor calls (List WorkflowId) where
  allows _ op := match op with
    | .upsertWorkflow r => Named r
    | _ => True
  replies op := match op with
    | .getWorkflow id => fun reply =>
      ∀ r ∈ (reply : Option WorkflowRecord), r.summary.workflowId = id ∧ Named r
    | .listAllWorkflows => fun reply => ∀ r ∈ (reply : List WorkflowRecord), Named r
    | _ => fun _ => True
  next unannounced op _ := (announcing env).next unannounced op

def Owes (id : WorkflowId) (unannounced : List WorkflowId) : Prop := ∀ k ∈ unannounced, k = id

theorem owes_nil (id : WorkflowId) : Owes id [] := fun _ hk => absurd hk List.not_mem_nil

section Programs

variable {env : Environment} {id : WorkflowId} {unannounced : List WorkflowId} {α β : Type}

def SpeaksForItself (env : Environment) (p : Service α) : Prop :=
  Obeys (announcer env) (fun _ unannounced => unannounced = []) [] p

theorem announces_pure (a : α) : SpeaksForItself env (pure a : Service α) := obeys_pure rfl

theorem SpeaksForItself.bind {p : Service α} {k : α → Service β} (hp : SpeaksForItself env p)
    (hk : ∀ a, SpeaksForItself env (k a)) : SpeaksForItself env (p >>= k) := by
  apply Obeys.bind hp
  rintro a _ rfl
  exact hk a

theorem SpeaksForItself.map {p : Service α} (k : α → β) (hp : SpeaksForItself env p) :
    SpeaksForItself env (k <$> p) := by
  apply Obeys.bind hp
  rintro a _ rfl
  exact obeys_pure rfl

theorem obeys_quiet (op : Op) {k : op.Reply → Service α} {Q : α → List WorkflowId → Prop}
    (hwrites : writtenWorkflow op = none) (hannounces : announcedWorkflow op = none)
    (hk : ∀ r, (announcer env).replies op r → Obeys (announcer env) Q unannounced (k r)) :
    Obeys (announcer env) Q unannounced (ask op >>= k) := by
  have hallows : (announcer env).allows unannounced op := by
    cases op with
    | upsertWorkflow r => exact absurd hwrites (by simp [writtenWorkflow])
    | _ => trivial
  apply obeys_perform_bind hallows
  intro r hr
  have hnext : (announcer env).next unannounced op r = unannounced := by
    change (announcing env).next unannounced op = unannounced
    have hann : (announcing env).announces op = none := hannounces
    have hwri : (announcing env).writes op = none := hwrites
    rw [Announcing.next, hann, hwri]
    rfl
  rw [hnext]
  exact hk r hr

theorem obeys_write (op : Op) {k : op.Reply → Service α} {Q : α → List WorkflowId → Prop}
    (hallows : (announcer env).allows unannounced op) (hwrites : writtenWorkflow op = some id)
    (howes : Owes id unannounced)
    (hk : ∀ r unannounced, Owes id unannounced → Obeys (announcer env) Q unannounced (k r)) :
    Obeys (announcer env) Q unannounced (ask op >>= k) := by
  apply obeys_perform_bind hallows
  intro r _
  apply hk
  intro other hother
  change other ∈ (announcing env).next unannounced op at hother
  unfold Announcing.next at hother
  split at hother
  · exact howes other (List.mem_filter.mp hother).1
  · have hwri : (announcing env).writes op = some id := hwrites
    rw [hwri] at hother
    rcases List.mem_append.mp hother with hother | hother
    · exact List.mem_singleton.mp hother
    · exact howes other hother

theorem obeys_announce (hid : id ≠ "") (howes : Owes id unannounced) :
    Obeys (announcer env) (fun _ rest => rest = []) unannounced (publishWorkflowUpdate id) := by
  unfold publishWorkflowUpdate
  rw [if_neg hid]
  refine ⟨trivial, fun _ _ => ?_⟩
  change (announcing env).next unannounced (.publish id) = []
  have hann : (announcing env).announces (.publish id) = some id := rfl
  rw [Announcing.next, hann]
  apply List.filter_eq_nil_iff.mpr
  intro k hk
  simp [howes k hk]

theorem obeys_persistEvent {p : Persisting} {record : WorkflowRecord}
    (hid : record.summary.workflowId = p.workflowId) (hnamed : Named record)
    (event : WorkflowEvent) :
    (persistEvent p record event).Obeys (announcer env)
      (fun record' unannounced => record'.summary.workflowId = p.workflowId ∧ Named record' ∧
        unannounced = []) [] := by
  apply obeys_quiet .unixTimeMsNow rfl rfl
  intro recordedAt _
  have hid' : (recordEvent recordedAt record event).summary.workflowId = p.workflowId := by
    rw [recordEvent_workflowId, hid]
  have hnamed' : Named (recordEvent recordedAt record event) := by
    unfold Named
    rw [recordEvent_workflowId, recordEvent_config]
    exact hnamed
  have hresponse : (persistResponse p recordedAt
      (recordEvent recordedAt record event) event.response).Obeys
      (announcer env) (fun _ unannounced => Owes p.workflowId unannounced) [] := by
    cases event.response with
    | none => exact obeys_pure (owes_nil _)
    | some response =>
      have hplan : (persistPlanVersion p recordedAt
          (recordEvent recordedAt record event) response).Obeys
          (announcer env) (fun _ unannounced => Owes p.workflowId unannounced) [] := by
        unfold persistPlanVersion
        split_ifs
        · exact obeys_write (k := pure) (.writePlanVersion _ _) trivial rfl (owes_nil _)
            fun _ _ howes => obeys_pure howes
        · exact obeys_pure (owes_nil _)
      apply hplan.bind
      intro _ unannounced howes
      unfold persistIdempotency
      split_ifs
      · exact obeys_pure howes
      · exact obeys_quiet (k := pure) (.putIdempotencyRecord _) rfl rfl fun _ _ => obeys_pure howes
  apply hresponse.bind
  intro _ unannounced howes
  apply obeys_write (.writeEvent _ _) trivial rfl howes
  intro _ unannounced howes
  apply obeys_write (.upsertWorkflow _) hnamed' (congrArg some hid') howes
  intro _ unannounced howes
  apply (obeys_announce (fun hempty => hnamed'.1 (hid'.trans hempty)) howes).bind
  rintro _ _ rfl
  exact obeys_pure ⟨hid', hnamed', rfl⟩

theorem announces_persistEvents {p : Persisting} {record : WorkflowRecord}
    (hid : record.summary.workflowId = p.workflowId) (hnamed : Named record)
    (events : List WorkflowEvent) :
    SpeaksForItself env (persistEvents p record events) := by
  induction events generalizing record with
  | nil => exact announces_pure _
  | cons event rest ih =>
    apply (obeys_persistEvent hid hnamed event).bind
    rintro record' _ ⟨hid', hnamed', rfl⟩
    exact SpeaksForItself.bind (ih hid' hnamed') fun _ => announces_pure _

theorem announces_submitAccepted {request : SubmitWorkflowRequest} (hid : request.config.id ≠ "") :
    SpeaksForItself env (submitAccepted env request) := by
  apply obeys_quiet .unixTimeMsNow rfl rfl
  intro now _
  have hexisting : (existingRecord request).Obeys (announcer env)
      (fun existing unannounced => (∀ r ∈ existing, r.summary.workflowId = request.config.id) ∧
        unannounced = []) [] := by
    unfold existingRecord
    split_ifs
    · apply obeys_quiet (k := pure) (.getWorkflow _) rfl rfl
      intro existing hexisting
      exact obeys_pure ⟨fun r hr => (hexisting r hr).1, rfl⟩
    · exact obeys_pure ⟨fun r hr => absurd hr (by simp), rfl⟩
  apply hexisting.bind
  rintro existing _ ⟨hexisting, rfl⟩
  have hname := submittedRecord_workflowId request now existing hexisting
  have hnamed : Named (submittedRecord request now existing) :=
    ⟨fun hempty => hid (hname.symm.trans hempty), hname.symm⟩
  apply obeys_write (.upsertWorkflow _) hnamed (congrArg some hname) (owes_nil _)
  intro _ unannounced howes
  apply (obeys_announce hid howes).bind
  rintro _ _ rfl
  apply obeys_quiet (.hydratedInsert _) rfl rfl
  intro _ _
  apply obeys_quiet (.runtimeSubmitWorkflow _) rfl rfl
  intro events _
  exact announces_persistEvents hname hnamed events

theorem announces_streamSubmitWorkflow {request : SubmitWorkflowRequest}
    (hid : request.config.id ≠ "") :
    SpeaksForItself env (streamSubmitWorkflow env request) := by
  simp only [streamSubmitWorkflow]
  split_ifs
  · exact announces_submitAccepted hid
  · apply obeys_quiet (.getIdempotencyRecord _) rfl rfl
    intro existing _
    cases existing with
    | none => exact announces_submitAccepted hid
    | some existing =>
      dsimp only
      split_ifs
      · exact announces_pure _
      · exact announces_pure _

theorem announces_hydrate (auth : ClientAuthContext) (workflowId : WorkflowId)
    (config : Protocol.WorkflowConfig) :
    SpeaksForItself env (hydrate auth workflowId config) := by
  apply obeys_quiet (.hydratedContains _) rfl rfl
  intro isHydrated _
  split_ifs
  · exact announces_pure _
  · apply obeys_quiet (.runtimeSubmitWorkflow _) rfl rfl
    intro events _
    dsimp only
    split_ifs
    · exact announces_pure _
    · exact obeys_quiet (.hydratedInsert _) rfl rfl fun _ _ => announces_pure _

theorem announces_reorchestrateAccepted {request : ReorchestrateRequest} {record : WorkflowRecord}
    (hid : record.summary.workflowId = request.workflowId) (hnamed : Named record) :
    SpeaksForItself env (reorchestrateAccepted env request record) := by
  apply obeys_quiet (.runtimeReorchestrate _) rfl rfl
  intro events _
  exact announces_persistEvents hid hnamed events

theorem announces_streamReorchestrate (request : ReorchestrateRequest) :
    SpeaksForItself env (streamReorchestrate env request) := by
  apply obeys_quiet (.getWorkflow _) rfl rfl
  intro reply hreply
  cases reply with
  | none => exact announces_pure _
  | some record =>
    obtain ⟨hid, hnamed⟩ := hreply record rfl
    dsimp only
    split
    · exact announces_pure _
    · apply SpeaksForItself.bind (announces_hydrate _ _ _)
      intro failure
      cases failure with
      | some response => exact announces_pure _
      | none =>
        dsimp only
        split_ifs
        · exact announces_reorchestrateAccepted hid hnamed
        · apply obeys_quiet (.getIdempotencyRecord _) rfl rfl
          intro existing _
          cases existing with
          | none => exact announces_reorchestrateAccepted hid hnamed
          | some existing =>
            dsimp only
            split_ifs
            · exact announces_pure _
            · exact announces_pure _

theorem announces_lifecycleAction (newState : WorkflowRecord → WorkflowLifecycleState)
    (action detail : String) (request : LifecycleRequest) :
    SpeaksForItself env (lifecycleAction newState action detail request) := by
  apply obeys_quiet (.getWorkflow _) rfl rfl
  intro reply hreply
  cases reply with
  | none => exact announces_pure _
  | some stored =>
    obtain ⟨hid, hnamed⟩ := hreply stored rfl
    apply obeys_quiet .unixTimeMsNow rfl rfl
    intro updatedAt _
    apply obeys_write (.upsertWorkflow _) hnamed (congrArg some hid) (owes_nil _)
    intro _ unannounced howes
    apply obeys_quiet .unixTimeMsNow rfl rfl
    intro recordedAt _
    apply obeys_write (.writeAuditEntry _ _) trivial rfl howes
    intro _ unannounced howes
    apply obeys_write (.upsertWorkflow _) hnamed (congrArg some hid) howes
    intro _ unannounced howes
    apply (obeys_announce (fun hempty => hnamed.1 (hid.trans hempty)) howes).bind
    rintro _ _ rfl
    exact announces_pure _

theorem announces_applyManualIntervention (request : ManualInterventionRequest) :
    SpeaksForItself env (applyManualIntervention env request) := by
  apply obeys_quiet (.getWorkflow _) rfl rfl
  intro reply hreply
  cases reply with
  | none => exact announces_pure _
  | some stored =>
    obtain ⟨hid, hnamed⟩ := hreply stored rfl
    apply obeys_quiet .unixTimeMsNow rfl rfl
    intro recordedAt _
    apply obeys_write (.writeAuditEntry _ _) trivial rfl (owes_nil _)
    intro _ unannounced howes
    apply obeys_write (.upsertWorkflow _) hnamed (congrArg some hid) howes
    intro _ unannounced howes
    apply (obeys_announce (fun hempty => hnamed.1 (hid.trans hempty)) howes).bind
    rintro _ _ rfl
    apply SpeaksForItself.bind (announces_streamReorchestrate _)
    intro events
    apply obeys_quiet (.getWorkflow _) rfl rfl
    intro refreshed _
    split_ifs
    · exact announces_pure _
    · exact announces_pure _

theorem announces_recoverWorkflow (auth : ClientAuthContext) {workflow : WorkflowRecord}
    (hnamed : Named workflow) :
    SpeaksForItself env (recoverWorkflow auth workflow) := by
  apply obeys_quiet .unixTimeMsNow rfl rfl
  intro recordedAt _
  apply obeys_write (.writeAuditEntry _ _) trivial rfl (owes_nil _)
  intro _ unannounced howes
  apply obeys_write (.upsertWorkflow _) hnamed rfl howes
  intro _ unannounced howes
  apply (obeys_announce hnamed.1 howes).bind
  rintro _ _ rfl
  apply obeys_quiet (.runtimeSubmitWorkflow _) rfl rfl
  intro _ _
  exact obeys_quiet (k := pure) (.hydratedInsert _) rfl rfl fun _ _ => announces_pure _

theorem announces_recoverWorkflows (auth : ClientAuthContext) {workflows : List WorkflowRecord}
    (h : ∀ r ∈ workflows, Named r) : SpeaksForItself env (recoverWorkflows auth workflows) := by
  induction workflows with
  | nil => exact announces_pure _
  | cons workflow rest ih =>
    have hrest := ih fun r hr => h r (List.mem_cons_of_mem _ hr)
    unfold recoverWorkflows
    split_ifs
    · exact hrest
    · exact SpeaksForItself.bind (announces_recoverWorkflow auth (h workflow List.mem_cons_self))
        fun _ => hrest

theorem announces_appendAuditEntry (workflowId : WorkflowId) (actor action detail : String) :
    SpeaksForItself env (Operator.appendAuditEntry workflowId actor action detail) := by
  apply obeys_quiet (.getWorkflow _) rfl rfl
  intro reply hreply
  cases reply with
  | none => exact announces_pure _
  | some stored =>
    obtain ⟨hid, hnamed⟩ := hreply stored rfl
    apply obeys_quiet .unixTimeMsNow rfl rfl
    intro recordedAt _
    apply obeys_write (.writeAuditEntry _ _) trivial rfl (owes_nil _)
    intro _ unannounced howes
    apply obeys_write (.upsertWorkflow _) hnamed (congrArg some hid) howes
    intro _ unannounced howes
    exact obeys_announce (fun hempty => hnamed.1 (hid.trans hempty)) howes

theorem announces_submitAndAudit {config : Protocol.WorkflowConfig} (hid : config.id ≠ "")
    (auth : ClientAuthContext) (key : Option String) (workflowId : WorkflowId)
    (actor action detail : String) :
    SpeaksForItself env
    (Operator.submitAndAudit env config auth key workflowId actor action detail) := by
  have hstream : SpeaksForItself env
      (streamSubmitWorkflow env (Operator.replacementRequest config auth key)) :=
    announces_streamSubmitWorkflow hid
  apply hstream.bind
  intro events
  exact (announces_appendAuditEntry _ _ _ _).bind fun _ => announces_pure _

theorem announces_upsertTask (request : UpsertOperatorTaskRequest) :
    SpeaksForItself env (Operator.upsertTask env request) := by
  unfold Operator.upsertTask
  split
  · exact announces_pure _
  split
  · exact announces_pure _
  · apply obeys_quiet (.getWorkflow _) rfl rfl
    intro reply hreply
    cases reply with
    | none => exact announces_pure _
    | some stored =>
      obtain ⟨-, hnamed, hconfig⟩ := hreply stored rfl
      have hid : (Operator.upsertTaskConfig stored.config request.task).id ≠ "" := by
        unfold Operator.upsertTaskConfig
        split_ifs
        · exact fun hempty => hnamed (hconfig.symm.trans hempty)
        · exact fun hempty => hnamed (hconfig.symm.trans hempty)
      exact announces_submitAndAudit hid _ _ _ _ _ _

theorem announces_deleteTask (request : DeleteOperatorTaskRequest) :
    SpeaksForItself env (Operator.deleteTask env request) := by
  unfold Operator.deleteTask
  split
  · exact announces_pure _
  split
  · exact announces_pure _
  · apply obeys_quiet (.getWorkflow _) rfl rfl
    intro reply hreply
    cases reply with
    | none => exact announces_pure _
    | some stored =>
      obtain ⟨-, hnamed, hconfig⟩ := hreply stored rfl
      have hid : (Operator.deleteTaskConfig stored.config request.taskId).id ≠ "" :=
        fun hempty => hnamed (hconfig.symm.trans hempty)
      dsimp only
      split
      · exact announces_submitAndAudit hid _ _ _ _ _ _
      · exact announces_pure _

/-- A submission names its workflow. The operator service sees to that itself. -/
def NamesWorkflow : Request → Prop
  | .submit request => request.config.id ≠ ""
  | _ => True

theorem Request.program_announces {request : Request} (h : NamesWorkflow request) :
    SpeaksForItself env (request.program env) := by
  cases request with
  | submit request => exact (announces_streamSubmitWorkflow h).map _
  | reorchestrate request => exact (announces_streamReorchestrate request).map _
  | pause request => exact (announces_lifecycleAction _ _ _ request).map _
  | resume request => exact (announces_lifecycleAction _ _ _ request).map _
  | cancel request => exact (announces_lifecycleAction _ _ _ request).map _
  | intervene request => exact (announces_applyManualIntervention request).map _
  | recover auth =>
    apply SpeaksForItself.map
    exact obeys_quiet .listAllWorkflows rfl rfl fun _ hreply =>
      announces_recoverWorkflows auth hreply
  | operatorUpsertWorkflow request =>
    apply SpeaksForItself.map
    unfold Operator.upsertWorkflow
    split
    · exact announces_pure _
    · rename_i hid
      exact announces_submitAndAudit hid _ _ _ _ _ _
  | operatorUpsertTask request => exact (announces_upsertTask request).map _
  | operatorDeleteTask request => exact (announces_deleteTask request).map _
  | operatorPause request =>
    exact (SpeaksForItself.bind (announces_lifecycleAction _ _ _ _) fun _ => announces_pure _).map _
  | operatorResume request =>
    exact (SpeaksForItself.bind (announces_lifecycleAction _ _ _ _) fun _ => announces_pure _).map _
  | operatorCancel request =>
    exact (SpeaksForItself.bind (announces_lifecycleAction _ _ _ _) fun _ => announces_pure _).map _
  | operatorIntervene request =>
    exact (SpeaksForItself.bind (announces_applyManualIntervention request) fun _ =>
      announces_pure _).map _
  | prune before =>
    apply SpeaksForItself.map
    exact obeys_quiet (k := pure) (.pruneStaleBootData before) rfl rfl fun _ _ => announces_pure _

end Programs

/-- Records are named, and the feed has no event after its latest. -/
structure Registered (w : World) : Prop where
  records : ∀ id r, w.store.getWorkflow id = some r → Named r
  events : ∀ event ∈ w.feed.events, event.eventId ≤ w.feed.latestEventId

section Registered

variable {env : Environment} {op : Op} {w : World} {unannounced : List WorkflowId}

theorem mem_publish {feed : UpdateFeed} {id : WorkflowId} {event : WorkflowUpdateEvent}
    (h : event ∈ (feed.publish id).events) :
    event ∈ feed.events ∨ event = ⟨feed.latestEventId + 1, id⟩ := by
  have hmem := List.mem_of_mem_drop h
  rcases List.mem_append.mp hmem with hold | hnew
  · exact Or.inl hold
  · exact Or.inr (List.mem_singleton.mp hnew)

theorem registered_step (h : Registered w) (hallows : (announcer env).allows unannounced op) :
    (announcer env).replies op (handle env op w).1 ∧ Registered (handle env op w).2 := by
  cases op with
  | upsertWorkflow r =>
    refine ⟨trivial, ?_, h.events⟩
    intro id record hrecord
    change (w.store.upsertWorkflow r).getWorkflow id = some record at hrecord
    rw [Store.getWorkflow_upsertWorkflow] at hrecord
    split_ifs at hrecord
    · obtain rfl := Option.some.inj hrecord
      exact hallows
    · exact h.records id record hrecord
  | getWorkflow id =>
    exact ⟨fun r hr => ⟨Store.workflowId_of_getWorkflow hr, h.records id r hr⟩, h.records, h.events⟩
  | listAllWorkflows =>
    exact ⟨fun r hr => h.records _ r ((Store.mem_listAllWorkflows w.store r).mp hr),
      h.records, h.events⟩
  | publish id =>
    refine ⟨trivial, h.records, fun event hevent => ?_⟩
    change event.eventId ≤ w.feed.latestEventId + 1
    rcases mem_publish hevent with hold | rfl
    · have hle := h.events event hold
      omega
    · exact Nat.le_refl _
  | _ => exact ⟨trivial, h.records, h.events⟩

theorem Lifetimes.registered {bootId : String} {clock : Nat → Int} {log : List (Op × World)}
    (run : Lifetimes env NamesWorkflow (.initial bootId clock) log w) : Registered w := by
  apply run.invariant (N := announcer env) (fun _ w => Registered w) (fun _ _ => True)
  · intro log u unannounced op h _ hallows
    obtain ⟨hreply, hnext⟩ := registered_step h hallows
    exact ⟨hreply, hnext, trivial⟩
  · exact fun _ _ _ _ => trivial
  · intro request hrequest
    exact ⟨[], fun _ => trivial, Obeys.mono (Request.program_announces hrequest) fun _ _ _ =>
      trivial⟩
  · intro log u bootId h
    exact ⟨h.records, fun event hevent => absurd hevent List.not_mem_nil⟩
  · exact ⟨fun id record hrecord =>
      absurd hrecord (by simp [World.initial, Store.initial, Store.getWorkflow]),
        fun event hevent => absurd hevent List.not_mem_nil⟩

end Registered

end TaskOrchestrator.System
