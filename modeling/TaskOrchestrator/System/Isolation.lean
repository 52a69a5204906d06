import TaskOrchestrator.Library.Pools
import TaskOrchestrator.System.Effects
import TaskOrchestrator.System.StoredRecords

/-!
# Requests on different workflows

Any number of requests are served at the same time, each on a workflow and under an idempotency key
of its own. Each gets the answer and leaves its workflow as if it had been served alone, at some
readings of the clock, however the calls of all of them are interleaved.
-/

namespace TaskOrchestrator.System

open Protocol Library ControlPlane
open Program (Pool Obeys obeys_pure obeys_perform_bind)

set_option autoImplicit false

/-- A workflow and an idempotency key; the empty key stands for none. -/
structure Footprint where
  workflowId : WorkflowId
  key : String
  deriving DecidableEq

def Footprint.Apart (f g : Footprint) : Prop :=
  f.workflowId ≠ g.workflowId ∧ (f.key = "" ∨ f.key ≠ g.key)

instance (f g : Footprint) : Decidable (f.Apart g) :=
  inferInstanceAs (Decidable (f.workflowId ≠ g.workflowId ∧ (f.key = "" ∨ f.key ≠ g.key)))

/-- Recovery and pruning are about all workflows at once. -/
def Request.footprint : Request → Option Footprint
  | .submit request => some ⟨request.config.id, request.idempotencyKey.getD ""⟩
  | .reorchestrate request => some ⟨request.workflowId, request.idempotencyKey.getD ""⟩
  | .pause request => some ⟨request.workflowId, ""⟩
  | .resume request => some ⟨request.workflowId, ""⟩
  | .cancel request => some ⟨request.workflowId, ""⟩
  | .intervene request => some ⟨request.workflowId, request.idempotencyKey.getD ""⟩
  | .recover _ => none
  | .operatorUpsertWorkflow request => some ⟨request.config.id, request.idempotencyKey.getD ""⟩
  | .operatorUpsertTask request => some ⟨request.workflowId, request.idempotencyKey.getD ""⟩
  | .operatorDeleteTask request => some ⟨request.workflowId, request.idempotencyKey.getD ""⟩
  | .operatorPause request => some ⟨request.workflowId, ""⟩
  | .operatorResume request => some ⟨request.workflowId, ""⟩
  | .operatorCancel request => some ⟨request.workflowId, ""⟩
  | .operatorIntervene request => some ⟨request.workflowId, request.idempotencyKey.getD ""⟩
  | .prune _ => none

def rowsOf {π : Type} (workflowId : WorkflowId) (table : KeyedRows (HistoryRow.key (π := π))) :
    List (HistoryRow π) :=
  table.rows.filter fun row => row.workflowId = workflowId

/-- What the state holds for a workflow and an idempotency key. -/
structure Share where
  record : Option WorkflowRecord
  events : List (HistoryRow WorkflowEvent)
  planVersions : List (HistoryRow RuntimeApiResponse)
  auditEntries : List (HistoryRow AuditPayload)
  cached : Option IdempotencyRow
  session : Option App.WorkflowConfig
  hydrated : Bool
  bootId : String

def share (f : Footprint) (w : World) : Share where
  record := w.store.getWorkflow f.workflowId
  events := rowsOf f.workflowId w.store.events
  planVersions := rowsOf f.workflowId w.store.planVersions
  auditEntries := rowsOf f.workflowId w.store.auditEntries
  cached := w.store.idempotency.get? f.key
  session := w.sessions.lookup f.workflowId
  hydrated := w.hydrated.contains f.workflowId
  bootId := w.store.currentBootId

section Rows

variable {π : Type} {workflowId : WorkflowId} {table other : KeyedRows (HistoryRow.key (π := π))}

theorem rowsOf_put (row : HistoryRow π) :
    rowsOf workflowId (table.put row) =
      if row.workflowId = workflowId then
        KeyedRows.putRows HistoryRow.key row (rowsOf workflowId table)
      else rowsOf workflowId table := by
  have h : (KeyedRows.putRows HistoryRow.key row table.rows).filter
      (fun x => decide (x.key.1 = workflowId)) = _ :=
    KeyedRows.filter_putRows (fun k : WorkflowId × Int => decide (k.1 = workflowId)) row table.rows
  refine h.trans ?_
  split_ifs with hkey hid hid
  · rfl
  · exact absurd (of_decide_eq_true hkey) hid
  · exact absurd (decide_eq_true hid) hkey
  · rfl

end Rows

section Runtime

variable (env : Environment) {sessions other : App.Sessions}

theorem runtimeSubmit_congr {request : SubmitWorkflowRequest}
    (h : other.lookup request.config.id = sessions.lookup request.config.id) :
    (App.streamSubmitWorkflow env.security env.optimize request other).1 =
        (App.streamSubmitWorkflow env.security env.optimize request sessions).1 ∧
      (App.streamSubmitWorkflow env.security env.optimize request other).2.lookup
        request.config.id =
        (App.streamSubmitWorkflow env.security env.optimize request sessions).2.lookup
          request.config.id := by
  have hsame : runtimeAccepts env request other = runtimeAccepts env request sessions := by
    unfold runtimeAccepts
    rw [h]
  cases haccepts : runtimeAccepts env request sessions with
  | false =>
    obtain ⟨-, hstream⟩ := runtimeSubmit_rejected env haccepts
    obtain ⟨-, hother⟩ := runtimeSubmit_rejected env (hsame.trans haccepts)
    rw [hstream, hother]
    exact ⟨rfl, h⟩
  | true =>
    rw [runtimeSubmit_accepted env haccepts, runtimeSubmit_accepted env (hsame.trans haccepts)]
    exact ⟨rfl, by rw [Dictionary.lookup_assign, Dictionary.lookup_assign, if_pos rfl, if_pos rfl]⟩

theorem runtimeSubmit_other {request : SubmitWorkflowRequest} {id : WorkflowId}
    (hid : request.config.id ≠ id) :
    (App.streamSubmitWorkflow env.security env.optimize request sessions).2.lookup id =
      sessions.lookup id := by
  rw [runtimeSubmit_sessions]
  split_ifs
  · rw [Dictionary.lookup_assign, if_neg hid]
  · rfl

theorem runtimeReorchestrate_congr {request : ReorchestrateRequest}
    (h : other.lookup request.workflowId = sessions.lookup request.workflowId) :
    (App.streamReorchestrate env.security env.optimize request other).1 =
        (App.streamReorchestrate env.security env.optimize request sessions).1 ∧
      (App.streamReorchestrate env.security env.optimize request other).2.lookup
        request.workflowId =
        (App.streamReorchestrate env.security env.optimize request sessions).2.lookup
          request.workflowId := by
  by_cases hauth : (App.authorize env.security request.auth).ok = true
  · cases hsession : sessions.lookup request.workflowId with
    | none =>
      simp only [App.streamReorchestrate, hauth, if_true, h, hsession]
      exact ⟨trivial, trivial⟩
    | some session =>
      simp only [App.streamReorchestrate, hauth, if_true, h, hsession, Dictionary.lookup_assign]
      exact ⟨trivial, trivial⟩
  · simp only [App.streamReorchestrate, hauth]
    exact ⟨rfl, h⟩

theorem runtimeReorchestrate_other {request : ReorchestrateRequest} {id : WorkflowId}
    (hid : request.workflowId ≠ id) :
    (App.streamReorchestrate env.security env.optimize request sessions).2.lookup id =
      sessions.lookup id := by
  by_cases hauth : (App.authorize env.security request.auth).ok = true
  · cases hsession : sessions.lookup request.workflowId with
    | none => simp only [App.streamReorchestrate, hauth, if_true, hsession]
    | some session =>
      simp only [App.streamReorchestrate, hauth, if_true, hsession]
      rw [Dictionary.lookup_assign, if_neg hid]
  · simp only [App.streamReorchestrate, hauth]
    rfl

end Runtime

/-- The calls stay within the footprint: every record, row, session and key is the request's own. -/
def within (f : Footprint) : Monitor calls Unit where
  allows _ op := match op with
    | .unixTimeMsNow => True
    | .upsertWorkflow r => r.summary.workflowId = f.workflowId ∧ r.config.id = f.workflowId
    | .getWorkflow id => id = f.workflowId
    | .listAllWorkflows => False
    | .writeEvent id _ => id = f.workflowId
    | .writePlanVersion id _ => id = f.workflowId
    | .writeAuditEntry id _ => id = f.workflowId
    | .putIdempotencyRecord r => r.key = f.key ∧ f.key ≠ ""
    | .getIdempotencyRecord key => key = f.key
    | .pruneStaleBootData _ => False
    | .hydratedContains id => id = f.workflowId
    | .hydratedInsert id => id = f.workflowId
    | .runtimeSubmitWorkflow request => request.config.id = f.workflowId
    | .runtimeReorchestrate request => request.workflowId = f.workflowId
    | .publish _ => True
  replies op := match op with
    | .getWorkflow id => fun reply =>
      ∀ r ∈ (reply : Option WorkflowRecord), r.summary.workflowId = id ∧ r.config.id = id
    | _ => fun _ => True
  next _ _ _ := ()

section Calls

variable (env : Environment) {f g : Footprint} {op : Op} {u w : World}

theorem within_keeps (hop : (within f).allows () op) (hw : ConfigsKeyed w) :
    ConfigsKeyed (handle env op w).2 := by
  cases op with
  | upsertWorkflow r =>
    intro id config hconfig
    obtain ⟨record, hrecord, rfl⟩ := Option.map_eq_some_iff.mp hconfig
    change (w.store.upsertWorkflow r).getWorkflow id = some record at hrecord
    rw [Store.getWorkflow_upsertWorkflow] at hrecord
    split_ifs at hrecord with hid
    · obtain rfl := Option.some.inj hrecord
      exact (hop.2.trans hop.1.symm).trans hid
    · exact hw id record.config (Option.map_eq_some_iff.mpr ⟨record, hrecord, rfl⟩)
  | listAllWorkflows => exact hop.elim
  | pruneStaleBootData before => exact hop.elim
  | _ => exact hw

theorem within_replies (hw : ConfigsKeyed w) : (within f).replies op (handle env op w).1 := by
  cases op with
  | getWorkflow id =>
    intro r hr
    exact ⟨Store.workflowId_of_getWorkflow hr,
      hw id r.config (Option.map_eq_some_iff.mpr ⟨r, hr, rfl⟩)⟩
  | _ => trivial

/-- A call of one request does not change the share of another one. -/
theorem share_other (hapart : g.Apart f) (hop : (within g).allows () op) :
    share f (handle env op w).2 = share f w := by
  obtain ⟨hid, hkey⟩ := hapart
  cases op with
  | upsertWorkflow r =>
    have hne : r.summary.workflowId ≠ f.workflowId := fun h => hid (hop.1.symm.trans h)
    simp only [share, handle, Store.getWorkflow_upsertWorkflow, if_neg hne]
    rfl
  | listAllWorkflows => exact hop.elim
  | writeEvent id e =>
    obtain rfl : id = g.workflowId := hop
    simp only [share, handle, Store.writeEvent, rowsOf_put, Store.eventRow, if_neg hid]
    rfl
  | writePlanVersion id v =>
    obtain rfl : id = g.workflowId := hop
    simp only [share, handle, Store.writePlanVersion, rowsOf_put, Store.planVersionRow, if_neg hid]
    rfl
  | writeAuditEntry id a =>
    obtain rfl : id = g.workflowId := hop
    simp only [share, handle, Store.writeAuditEntry, rowsOf_put, Store.auditRow, if_neg hid]
    rfl
  | putIdempotencyRecord r =>
    have hne : idempotencyRowKey { record := r, bootId := w.store.currentBootId } ≠ f.key := by
      intro h
      rcases hkey with hempty | hne
      · exact hop.2 hempty
      · exact hne (hop.1.symm.trans h)
    simp only [share, handle, Store.putIdempotencyRecord, KeyedRows.get?_put_of_ne _ hne]
    rfl
  | pruneStaleBootData before => exact hop.elim
  | hydratedInsert id =>
    obtain rfl : id = g.workflowId := hop
    have hsame : (w.hydrated.insert g.workflowId).contains f.workflowId =
        w.hydrated.contains f.workflowId := by
      simp [Ne.symm hid]
    simp only [share, handle, hsame]
  | runtimeSubmitWorkflow request =>
    have hne : request.config.id ≠ f.workflowId := fun h => hid (hop.symm.trans h)
    simp only [share, handle, runtimeSubmit_other env hne]
  | runtimeReorchestrate request =>
    have hne : request.workflowId ≠ f.workflowId := fun h => hid (hop.symm.trans h)
    simp only [share, handle, runtimeReorchestrate_other env hne]
  | _ => rfl

/-- The share of a request decides what its calls reply, the clock apart, and what they make of it. -/
theorem share_own (hop : (within f).allows () op) (hshare : share f u = share f w)
    (htime : op = .unixTimeMsNow → u.clock u.ticks = w.clock w.ticks) :
    (handle env op u).1 = (handle env op w).1 ∧
      share f (handle env op u).2 = share f (handle env op w).2 := by
  simp only [share, Share.mk.injEq] at hshare
  obtain ⟨hrecord, hevents, hplans, haudit, hcached, hsession, hhydrated, hboot⟩ := hshare
  cases op with
  | unixTimeMsNow => exact ⟨htime rfl, by simp only [share, handle, *]⟩
  | upsertWorkflow r =>
    refine ⟨rfl, ?_⟩
    simp only [share, handle, Store.getWorkflow_upsertWorkflow, hrecord]
    simp only [Store.upsertWorkflow, *]
  | getWorkflow id =>
    obtain rfl : id = f.workflowId := hop
    exact ⟨hrecord, by simp only [share, handle, *]⟩
  | listAllWorkflows => exact hop.elim
  | writeEvent id e =>
    refine ⟨rfl, ?_⟩
    simp only [share, handle, Store.writeEvent, rowsOf_put, hboot, hevents]
    simp only [Store.getWorkflow] at hrecord ⊢
    simp only [*]
  | writePlanVersion id v =>
    refine ⟨rfl, ?_⟩
    simp only [share, handle, Store.writePlanVersion, rowsOf_put, hboot, hplans]
    simp only [Store.getWorkflow] at hrecord ⊢
    simp only [*]
  | writeAuditEntry id a =>
    refine ⟨rfl, ?_⟩
    simp only [share, handle, Store.writeAuditEntry, rowsOf_put, hboot, haudit]
    simp only [Store.getWorkflow] at hrecord ⊢
    simp only [*]
  | putIdempotencyRecord r =>
    refine ⟨rfl, ?_⟩
    simp only [share, handle, Store.putIdempotencyRecord, KeyedRows.get?_put, hboot, hcached]
    simp only [Store.getWorkflow] at hrecord ⊢
    simp only [*]
  | getIdempotencyRecord key =>
    obtain rfl : key = f.key := hop
    exact ⟨congrArg (Option.map IdempotencyRow.record) hcached, by simp only [share, handle, *]⟩
  | pruneStaleBootData before => exact hop.elim
  | hydratedContains id =>
    obtain rfl : id = f.workflowId := hop
    simp only [List.contains_eq_mem] at hhydrated
    exact ⟨hhydrated, by simp only [share, handle, List.contains_eq_mem, *]⟩
  | hydratedInsert id =>
    obtain rfl : id = f.workflowId := hop
    exact ⟨rfl, by simp only [share, handle, *, List.contains_eq_mem]; simp⟩
  | runtimeSubmitWorkflow request =>
    have hid : request.config.id = f.workflowId := hop
    rw [← hid] at hsession
    obtain ⟨hstream, hlookup⟩ := runtimeSubmit_congr env hsession
    rw [hid] at hlookup
    exact ⟨hstream, by simp only [share, handle, *]⟩
  | runtimeReorchestrate request =>
    have hid : request.workflowId = f.workflowId := hop
    rw [← hid] at hsession
    obtain ⟨hstream, hlookup⟩ := runtimeReorchestrate_congr env hsession
    rw [hid] at hlookup
    exact ⟨hstream, by simp only [share, handle, *]⟩
  | publish id => exact ⟨rfl, by simp only [share, handle, *]⟩

end Calls

def Stays {α : Type} (f : Footprint) (p : Service α) : Prop :=
  Obeys (within f) (fun _ _ => True) () p

section Programs

variable {env : Environment} {f : Footprint} {α β : Type}

theorem stays_pure (a : α) : Stays f (pure a : Service α) := obeys_pure trivial

theorem Stays.bind {p : Service α} {k : α → Service β} (hp : Stays f p) (hk : ∀ a, Stays f (k a)) :
    Stays f (p >>= k) := Obeys.bind hp fun a _ _ => hk a

theorem Stays.map {p : Service α} (k : α → β) (hp : Stays f p) : Stays f (k <$> p) :=
  Obeys.bind hp fun _ _ _ => obeys_pure trivial

theorem stays_ask (op : Op) {k : op.Reply → Service α} (hop : (within f).allows () op)
    (hk : ∀ r, (within f).replies op r → Stays f (k r)) :
    Stays f (ask op >>= k) := obeys_perform_bind hop hk

theorem stays_publish (id : WorkflowId) : Stays f (publishWorkflowUpdate id) :=
  (publish_stable ⟨trivial, fun _ => rfl⟩).mono fun _ _ _ => trivial

theorem stays_persistEvents {p : Persisting} {record : WorkflowRecord}
    (hid : p.workflowId = f.workflowId) (hkey : p.idempotencyKey = f.key)
    (hrecord : record.summary.workflowId = f.workflowId) (hconfig : record.config.id = f.workflowId)
    (events : List WorkflowEvent) :
    Stays f (persistEvents p record events) := by
  refine (persistEvents_stable (fun op hop => ⟨?_, fun _ => rfl⟩) events).mono fun _ _ _ => trivial
  cases op with
  | writePlanVersion id version => exact Eq.trans hop hid
  | writeEvent id e => exact Eq.trans hop hid
  | upsertWorkflow r => exact ⟨hop.1.trans hrecord, by rw [hop.2.1, hconfig]⟩
  | putIdempotencyRecord r => exact ⟨hop.1.trans hkey, hkey ▸ hop.2⟩
  | unixTimeMsNow => trivial
  | publish id => trivial
  | _ => exact hop.elim

theorem stays_submitAccepted {request : SubmitWorkflowRequest}
    (hid : request.config.id = f.workflowId) (hkey : request.idempotencyKey.getD "" = f.key) :
    Stays f (submitAccepted env request) := by
  apply stays_ask .unixTimeMsNow trivial
  intro now _
  have hrest : ∀ existing : Option WorkflowRecord,
      (∀ r ∈ existing, r.summary.workflowId = request.config.id) → Stays f (do
        upsertWorkflow (submittedRecord request now existing)
        publishWorkflowUpdate request.config.id
        hydratedInsert request.config.id
        let events ← runtimeSubmitWorkflow request
        persistEvents (submitPersisting env request)
          (submittedRecord request now existing) events) := by
    intro existing hexisting
    have hrecord := (submittedRecord_workflowId request now existing hexisting).trans hid
    apply stays_ask (.upsertWorkflow _) ⟨hrecord, hid⟩
    intro _ _
    apply (stays_publish _).bind
    intro _
    apply stays_ask (.hydratedInsert _) hid
    intro _ _
    apply stays_ask (.runtimeSubmitWorkflow _) hid
    intro events _
    exact stays_persistEvents hid hkey hrecord hid events
  unfold existingRecord
  split_ifs
  · apply stays_ask (.getWorkflow _) hid
    intro existing hreply
    exact hrest existing fun r hr => (hreply r hr).1
  · exact hrest none fun r hr => absurd hr (by simp)

theorem stays_streamSubmitWorkflow {request : SubmitWorkflowRequest}
    (hid : request.config.id = f.workflowId) (hkey : request.idempotencyKey.getD "" = f.key) :
    Stays f (streamSubmitWorkflow env request) := by
  simp only [streamSubmitWorkflow]
  split_ifs with hempty
  · exact stays_submitAccepted hid hkey
  · apply stays_ask (.getIdempotencyRecord _) hkey
    intro existing _
    cases existing with
    | none => exact stays_submitAccepted hid hkey
    | some existing =>
      dsimp only
      split_ifs
      · exact stays_pure _
      · exact stays_pure _

theorem stays_hydrate (auth : ClientAuthContext) {workflowId : WorkflowId} {config : WorkflowConfig}
    (hid : workflowId = f.workflowId) (hconfig : config.id = f.workflowId) :
    Stays f (hydrate auth workflowId config) := by
  apply stays_ask (.hydratedContains _) hid
  intro isHydrated _
  split_ifs
  · exact stays_pure _
  · have hreplay : (within f).allows ()
        (.runtimeSubmitWorkflow { config := config, auth := auth, replaceExisting := some true }) :=
      hconfig
    apply stays_ask _ hreplay
    intro events _
    dsimp only
    split_ifs
    · exact stays_pure _
    · apply stays_ask (.hydratedInsert _) hid
      intro _ _
      exact stays_pure _

theorem stays_reorchestrateAccepted {request : ReorchestrateRequest} {record : WorkflowRecord}
    (hid : request.workflowId = f.workflowId) (hkey : request.idempotencyKey.getD "" = f.key)
    (hrecord : record.summary.workflowId = f.workflowId)
    (hconfig : record.config.id = f.workflowId) :
    Stays f (reorchestrateAccepted env request record) := by
  apply stays_ask (.runtimeReorchestrate _) hid
  intro events _
  exact stays_persistEvents hid hkey hrecord hconfig events

theorem stays_streamReorchestrate {request : ReorchestrateRequest}
    (hid : request.workflowId = f.workflowId) (hkey : request.idempotencyKey.getD "" = f.key) :
    Stays f (streamReorchestrate env request) := by
  apply stays_ask (.getWorkflow _) hid
  intro reply hreply
  cases reply with
  | none => exact stays_pure _
  | some record =>
    obtain ⟨hrecord, hconfig⟩ := hreply record rfl
    rw [hid] at hrecord hconfig
    have haccepted : Stays f (reorchestrateAccepted env request record) :=
      stays_reorchestrateAccepted hid hkey hrecord hconfig
    dsimp only
    split
    · exact stays_pure _
    · apply (stays_hydrate _ hid hconfig).bind
      intro failure
      cases failure with
      | some response => exact stays_pure _
      | none =>
        dsimp only
        split_ifs
        · exact haccepted
        · apply stays_ask (.getIdempotencyRecord _) hkey
          intro existing _
          cases existing with
          | none => exact haccepted
          | some existing =>
            dsimp only
            split_ifs
            · exact stays_pure _
            · exact stays_pure _

theorem stays_lifecycleAction {newState : WorkflowRecord → WorkflowLifecycleState}
    (action detail : String) {request : LifecycleRequest}
    (hid : request.workflowId = f.workflowId) :
    Stays f (lifecycleAction newState action detail request) := by
  apply stays_ask (.getWorkflow _) hid
  intro reply hreply
  cases reply with
  | none => exact stays_pure _
  | some stored =>
    obtain ⟨hrecord, hconfig⟩ := hreply stored rfl
    rw [hid] at hrecord hconfig
    apply stays_ask .unixTimeMsNow trivial
    intro updatedAt _
    apply stays_ask (.upsertWorkflow _) ⟨hrecord, hconfig⟩
    intro _ _
    apply stays_ask .unixTimeMsNow trivial
    intro recordedAt _
    apply stays_ask (.writeAuditEntry _ _) hid
    intro _ _
    apply stays_ask (.upsertWorkflow _) ⟨hrecord, hconfig⟩
    intro _ _
    exact (stays_publish _).bind fun _ => stays_pure _

theorem stays_applyManualIntervention {request : ManualInterventionRequest}
    (hid : request.workflowId = f.workflowId) (hkey : request.idempotencyKey.getD "" = f.key) :
    Stays f (applyManualIntervention env request) := by
  apply stays_ask (.getWorkflow _) hid
  intro reply hreply
  cases reply with
  | none => exact stays_pure _
  | some stored =>
    obtain ⟨hrecord, hconfig⟩ := hreply stored rfl
    rw [hid] at hrecord hconfig
    apply stays_ask .unixTimeMsNow trivial
    intro recordedAt _
    apply stays_ask (.writeAuditEntry _ _) hid
    intro _ _
    apply stays_ask (.upsertWorkflow _) ⟨hrecord, hconfig⟩
    intro _ _
    apply (stays_publish _).bind
    intro _
    have hstream : Stays f (streamReorchestrate env (interventionReorchestrateRequest request)) :=
      stays_streamReorchestrate hid hkey
    apply hstream.bind
    intro events
    apply stays_ask (.getWorkflow _) hid
    intro refreshed _
    split_ifs
    · exact stays_pure _
    · exact stays_pure _

theorem stays_appendAuditEntry {id : WorkflowId} (hid : id = f.workflowId)
    (actor action detail : String) :
    Stays f (Operator.appendAuditEntry id actor action detail) := by
  apply stays_ask (.getWorkflow _) hid
  intro reply hreply
  cases reply with
  | none => exact stays_pure _
  | some stored =>
    obtain ⟨hrecord, hconfig⟩ := hreply stored rfl
    rw [hid] at hrecord hconfig
    apply stays_ask .unixTimeMsNow trivial
    intro recordedAt _
    apply stays_ask (.writeAuditEntry _ _) hid
    intro _ _
    apply stays_ask (.upsertWorkflow _) ⟨hrecord, hconfig⟩
    intro _ _
    exact stays_publish _

theorem stays_submitAndAudit {config : WorkflowConfig} {auth : ClientAuthContext}
    {key : Option String} {id : WorkflowId} {actor action detail : String}
    (hconfig : config.id = f.workflowId) (hkey : key.getD "" = f.key) (hid : id = f.workflowId) :
    Stays f (Operator.submitAndAudit env config auth key id actor action detail) := by
  have hstream : Stays f (streamSubmitWorkflow env (Operator.replacementRequest config auth key)) :=
    stays_streamSubmitWorkflow hconfig hkey
  apply hstream.bind
  intro events
  exact (stays_appendAuditEntry hid _ _ _).bind fun _ => stays_pure _

theorem upsertTaskConfig_id (config : WorkflowConfig) (task : TaskConfig) :
    (Operator.upsertTaskConfig config task).id = config.id := by
  unfold Operator.upsertTaskConfig
  split_ifs <;> rfl

theorem stays_upsertTask {request : UpsertOperatorTaskRequest}
    (hid : request.workflowId = f.workflowId) (hkey : request.idempotencyKey.getD "" = f.key) :
    Stays f (Operator.upsertTask env request) := by
  unfold Operator.upsertTask
  split
  · exact stays_pure _
  split
  · exact stays_pure _
  · apply stays_ask (.getWorkflow _) hid
    intro reply hreply
    cases reply with
    | none => exact stays_pure _
    | some stored =>
      have hconfig := (hreply stored rfl).2.trans hid
      exact stays_submitAndAudit ((upsertTaskConfig_id _ _).trans hconfig) hkey hid

theorem stays_deleteTask {request : DeleteOperatorTaskRequest}
    (hid : request.workflowId = f.workflowId) (hkey : request.idempotencyKey.getD "" = f.key) :
    Stays f (Operator.deleteTask env request) := by
  unfold Operator.deleteTask
  split
  · exact stays_pure _
  split
  · exact stays_pure _
  · apply stays_ask (.getWorkflow _) hid
    intro reply hreply
    cases reply with
    | none => exact stays_pure _
    | some stored =>
      have hconfig := (hreply stored rfl).2.trans hid
      dsimp only
      split
      · exact stays_submitAndAudit hconfig hkey hid
      · exact stays_pure _

theorem Request.program_stays {request : Request} (h : request.footprint = some f) :
    Stays f (request.program env) := by
  cases request with
  | submit request =>
    obtain rfl := Option.some.inj h
    exact (stays_streamSubmitWorkflow rfl rfl).map _
  | reorchestrate request =>
    obtain rfl := Option.some.inj h
    exact (stays_streamReorchestrate rfl rfl).map _
  | pause request =>
    obtain rfl := Option.some.inj h
    exact (stays_lifecycleAction _ _ rfl).map _
  | resume request =>
    obtain rfl := Option.some.inj h
    exact (stays_lifecycleAction _ _ rfl).map _
  | cancel request =>
    obtain rfl := Option.some.inj h
    exact (stays_lifecycleAction _ _ rfl).map _
  | intervene request =>
    obtain rfl := Option.some.inj h
    exact (stays_applyManualIntervention rfl rfl).map _
  | recover auth => exact absurd h (by simp [Request.footprint])
  | operatorUpsertWorkflow request =>
    obtain rfl := Option.some.inj h
    apply Stays.map
    unfold Operator.upsertWorkflow
    split
    · exact stays_pure _
    · exact stays_submitAndAudit rfl rfl rfl
  | operatorUpsertTask request =>
    obtain rfl := Option.some.inj h
    exact (stays_upsertTask rfl rfl).map _
  | operatorDeleteTask request =>
    obtain rfl := Option.some.inj h
    exact (stays_deleteTask rfl rfl).map _
  | operatorPause request =>
    obtain rfl := Option.some.inj h
    exact (Stays.bind (stays_lifecycleAction _ _ rfl) fun _ => stays_pure _).map _
  | operatorResume request =>
    obtain rfl := Option.some.inj h
    exact (Stays.bind (stays_lifecycleAction _ _ rfl) fun _ => stays_pure _).map _
  | operatorCancel request =>
    obtain rfl := Option.some.inj h
    exact (Stays.bind (stays_lifecycleAction _ _ rfl) fun _ => stays_pure _).map _
  | operatorIntervene request =>
    obtain rfl := Option.some.inj h
    exact (Stays.bind (stays_applyManualIntervention rfl rfl) fun _ => stays_pure _).map _
  | prune before => exact absurd h (by simp [Request.footprint])

end Programs

def readingsLeft (w : World) : Nat → Int := fun n => w.clock (w.ticks + n)

def withClock (w : World) (readings : Nat → Int) : World := { w with clock := readings, ticks := 0 }

section Concurrent

variable {ι : Type} [DecidableEq ι]

/-- Each request is about one workflow, and no two have a workflow or a key in common. -/
structure AllApart (requests : ι → Request) (footprints : ι → Footprint) : Prop where
  own : ∀ i, (requests i).footprint = some (footprints i)
  apart : ∀ i j, i ≠ j → (footprints i).Apart (footprints j)

omit [DecidableEq ι] in
theorem requests_separate (env : Environment) {requests : ι → Request} {footprints : ι → Footprint}
    (hall : AllApart requests footprints) :
    Program.Separate (handle env) ConfigsKeyed (fun i => within (footprints i))
      (fun i => share (footprints i))
      readingsLeft (fun op => op = .unixTimeMsNow) where
  keeps i _ op w hw hop := within_keeps env hop hw
  replies i _ op w hw _ := within_replies env hw
  own i _ op w u hop hshare hreading := share_own env hop hshare hreading
  other i j hji _ op w hop := share_other env (hall.apart j i hji) hop
  taken i _ op w _ hread := by
    subst hread
    funext n
    change w.clock (w.ticks + 1 + n) = w.clock (w.ticks + (n + 1))
    rw [Nat.add_assoc, Nat.add_comm 1 n]
  left i _ op w hop hread := by
    cases op with
    | unixTimeMsNow => exact absurd rfl hread
    | _ => rfl

/-- Requests on different workflows do not notice each other: each has the answer that it has alone,
and leaves its workflow as it does alone. What belongs to no request stays as it was. -/
theorem requests_isolated (env : Environment) (bootId : String) (clock : Nat → Int)
    (before : List Step) (requests : ι → Request) (footprints : ι → Footprint)
    (hall : AllApart requests footprints) (trace : List (ι × Op × World))
    (left : ι → Service Answer) (t : World)
    (run : Pool (handle env) (fun i => (requests i).program env)
      (runWorld env before (.initial bootId clock)) trace left t) :
    (∀ i answer, left i = pure answer → ∃ readings : Nat → Int,
      let alone :=
        serve env (requests i) (withClock (runWorld env before (.initial bootId clock)) readings)
      alone.1 = answer ∧ share (footprints i) alone.2 = share (footprints i) t) ∧
    (∀ aside : Footprint, (∀ i, (footprints i).Apart aside) →
      share aside t = share aside (runWorld env before (.initial bootId clock))) := by
  have hkeyed : ConfigsKeyed (runWorld env before (.initial bootId clock)) :=
    (runWorld_recordsSound (initial_recordsSound bootId clock)).keyed
  have hsep := requests_separate env hall
  have hobeys : ∀ i, Obeys (within (footprints i)) (fun _ _ => True) ()
      ((requests i).program env) :=
    fun i => Request.program_stays (hall.own i)
  constructor
  · intro i answer hend
    obtain ⟨readings, halone⟩ := run.alone hsep hobeys hkeyed i hend
    refine ⟨readings, halone _ rfl ?_⟩
    funext n
    change readings (0 + n) = readings n
    rw [Nat.zero_add]
  · intro aside haside
    exact run.frame hsep.keeps hsep.replies (fun i _ op w hop => share_other env (haside i) hop)
      hobeys hkeyed

end Concurrent

def twoSubmissions : Bool → Request
  | true => .submit { config := { id := "a" }, idempotencyKey := some "k" }
  | false => .submit { config := { id := "b" } }

def twoFootprints : Bool → Footprint
  | true => ⟨"a", "k"⟩
  | false => ⟨"b", ""⟩

theorem twoSubmissions_apart : AllApart twoSubmissions twoFootprints where
  own i := by cases i <;> rfl
  apart i j hij := by
    cases i <;> cases j
    · exact absurd rfl hij
    · exact ⟨by decide, Or.inl rfl⟩
    · exact ⟨by decide, Or.inr (by decide)⟩
    · exact absurd rfl hij

/-- The calls of the two submissions in turn. -/
theorem requests_isolated_in_turn : ∃ trace left t answer,
    Pool (handle openEnvironment) (fun i => (twoSubmissions i).program openEnvironment)
      (runWorld openEnvironment [] newDatabase) trace left t ∧
    left true = pure answer ∧ ∃ readings : Nat → Int,
      let alone := serve openEnvironment (twoSubmissions true)
        (withClock (runWorld openEnvironment [] newDatabase) readings)
      alone.1 = answer ∧ share ⟨"a", "k"⟩ alone.2 = share ⟨"a", "k"⟩ t := by
  have hends : (Program.runPool (handle openEnvironment)
      ((List.replicate 18 [true, false]).flatten ++ [true, true])
      (fun i => (twoSubmissions i).program openEnvironment) newDatabase).any
      (fun r => (r.2.1 true).answer?.isSome = true) = true := by
    decide
  obtain ⟨trace, left, t, run, hended⟩ := Program.exists_pool hends
  obtain ⟨answer, hanswer⟩ := Program.exists_of_answer? hended
  exact ⟨trace, left, t, answer, run, hanswer,
    (requests_isolated openEnvironment "boot" (fun reading => reading) []
      twoSubmissions twoFootprints twoSubmissions_apart trace left t run).1 true answer hanswer⟩

end TaskOrchestrator.System
