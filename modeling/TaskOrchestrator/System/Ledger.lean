import TaskOrchestrator.System.Runs
import TaskOrchestrator.System.PersistenceLoop
import TaskOrchestrator.Library.Ledger

/-!
# The ledger of a workflow

The three append tables of a workflow behind the counters of its record. Every operation
that writes to a workflow starts from the record it read and stores that record again with
the counters advanced; the ledger of the workflow is the view of the calls that says so.
The one operation that does not is a submission without `replace_existing`.
-/

namespace TaskOrchestrator.System

open Protocol Library ControlPlane

set_option autoImplicit false

inductive Table where
  | events
  | planVersions
  | auditEntries
  deriving DecidableEq

inductive HistoryPayload where
  | event (event : WorkflowEvent)
  | planVersion (response : RuntimeApiResponse)
  | audit (entry : AuditPayload)
  deriving DecidableEq

def HistoryRow.tag {π : Type} (f : π → HistoryPayload) (row : HistoryRow π) :
    HistoryRow HistoryPayload where
  workflowId := row.workflowId
  sequence := row.sequence
  recordedAtUnixMs := row.recordedAtUnixMs
  bootId := row.bootId
  payload := f row.payload

def history (store : Store) : Table → List (HistoryRow HistoryPayload)
  | .events => store.events.rows.map (HistoryRow.tag .event)
  | .planVersions => store.planVersions.rows.map (HistoryRow.tag .planVersion)
  | .auditEntries => store.auditEntries.rows.map (HistoryRow.tag .audit)

def writtenRow (table : Table) (bootId : String) : Op → Option (HistoryRow HistoryPayload)
  | .writeEvent id e =>
    if table = .events then some (HistoryRow.tag .event (Store.eventRow bootId id e)) else none
  | .writePlanVersion id v =>
    if table = .planVersions
      then some (HistoryRow.tag .planVersion (Store.planVersionRow bootId id v)) else none
  | .writeAuditEntry id a =>
    if table = .auditEntries
      then some (HistoryRow.tag .audit (Store.auditRow bootId id a)) else none
  | _ => none

def writtenRows (table : Table) (log : List (Op × World)) : List (HistoryRow HistoryPayload) :=
  log.filterMap fun entry => writtenRow table entry.2.store.currentBootId entry.1

def recordCounters (record : WorkflowRecord) : Table → Int
  | .events => record.summary.totalEventCount
  | .planVersions => record.summary.latestPlanVersion
  | .auditEntries => record.summary.totalAuditEntryCount

def storedCounters (workflowId : WorkflowId) (w : World) : Table → Int :=
  ((w.store.getWorkflow workflowId).map recordCounters).getD fun _ => 0

def ledgerAct (workflowId : WorkflowId) : Op → LedgerAct Table
  | .getWorkflow id => if id = workflowId then .read else .skip
  | .listAllWorkflows => .read
  | .writeEvent id e => if id = workflowId then .append .events e.sequence else .skip
  | .writePlanVersion id v => if id = workflowId then .append .planVersions v.version else .skip
  | .writeAuditEntry id a => if id = workflowId then .append .auditEntries a.sequence else .skip
  | .upsertWorkflow r => if r.summary.workflowId = workflowId then .store (recordCounters r)
    else .skip
  | _ => .skip

def ledgerSeen (workflowId : WorkflowId) : (op : Op) → op.Reply → Table → Int
  | .getWorkflow _, reply => (reply.map recordCounters).getD fun _ => 0
  | .listAllWorkflows, reply =>
    ((reply.find? fun r => recordKey r = workflowId).map recordCounters).getD fun _ => 0
  | _, _ => fun _ => 0

/-- Records come back under the id they were asked for, each id once. -/
def repliesKeyed : (op : Op) → op.Reply → Prop
  | .getWorkflow id, reply => ∀ r ∈ reply, r.summary.workflowId = id
  | .listAllWorkflows, reply => (reply.map recordKey).Nodup
  | _, _ => True

theorem repliesKeyed_handle (env : Environment) (op : Op) (w : World) :
    repliesKeyed op (handle env op w).1 := by
  cases op with
  | getWorkflow id => exact fun r hr => Store.workflowId_of_getWorkflow hr
  | listAllWorkflows => exact w.store.listAllWorkflows_nodup
  | _ => trivial

theorem find_listAllWorkflows (store : Store) (workflowId : WorkflowId) :
    store.listAllWorkflows.find? (fun r => recordKey r = workflowId) =
      store.getWorkflow workflowId := by
  apply Option.ext
  intro r
  have hlisted : store.listAllWorkflows.find? (fun r => recordKey r = workflowId) = some r ↔
      r ∈ store.listAllWorkflows ∧ recordKey r = workflowId :=
    KeyedRows.get?_eq_some_iff ⟨_, store.listAllWorkflows_nodup⟩ workflowId r
  rw [hlisted, Store.mem_listAllWorkflows]
  constructor
  · rintro ⟨h, rfl⟩
    exact h
  · intro h
    have hid := Store.workflowId_of_getWorkflow h
    exact ⟨hid ▸ h, hid⟩

theorem ledgerAct_read {workflowId : WorkflowId} {op : Op} (h : ledgerAct workflowId op = .read) :
    op = .getWorkflow workflowId ∨ op = .listAllWorkflows := by
  unfold ledgerAct at h
  split at h <;> try split_ifs at h
  all_goals simp_all

theorem ledgerAct_store {workflowId : WorkflowId} {op : Op} {c : Table → Int}
    (h : ledgerAct workflowId op = .store c) :
    ∃ r : WorkflowRecord, op = .upsertWorkflow r ∧ r.summary.workflowId = workflowId ∧
    recordCounters r = c := by
  unfold ledgerAct at h
  split at h <;> try split_ifs at h
  all_goals simp_all

theorem storedCounters_other (env : Environment) (workflowId : WorkflowId) (op : Op) (w : World)
    (h : ∀ c, ledgerAct workflowId op ≠ .store c) :
    storedCounters workflowId (handle env op w).2 = storedCounters workflowId w := by
  cases op with
  | upsertWorkflow r =>
    have hne : r.summary.workflowId ≠ workflowId :=
      fun he => h (recordCounters r) (by simp [ledgerAct, he])
    simp only [storedCounters, handle, Store.getWorkflow_upsertWorkflow, hne, if_false]
  | _ => rfl

def ledger (env : Environment) (workflowId : WorkflowId) :
    LedgerView calls World Table (handle env) where
  act := ledgerAct workflowId
  replies := repliesKeyed
  seen := ledgerSeen workflowId
  counters := storedCounters workflowId
  replies_handle := repliesKeyed_handle env
  seen_read := by
    intro op w h
    rcases ledgerAct_read h with rfl | rfl
    · rfl
    · simp only [ledgerSeen, handle, find_listAllWorkflows, storedCounters]
  counters_store := by
    intro op w c h
    obtain ⟨r, rfl, hid, rfl⟩ := ledgerAct_store h
    simp only [storedCounters, handle, Store.getWorkflow_upsertWorkflow, hid, if_true,
      Option.map_some, Option.getD_some]
  counters_other := storedCounters_other env workflowId

section Discipline

variable {env : Environment} {w : WorkflowId} {α : Type} {Q : α → Copy Table → Prop}
variable {k : Copy Table}

theorem stable_skip {op : Op} (hact : ledgerAct w op = .skip) :
    Program.Stable (ledger env w).monitor k op := by
  constructor
  · change k.Allows (ledgerAct w op)
    rw [hact]
    cases k <;> trivial
  · intro r
    change k.next (ledgerAct w op) (ledgerSeen w op r) = k
    rw [hact]
    cases k <;> rfl

theorem obeys_skip {op : Op} {f : op.Reply → Service α} (hact : ledgerAct w op = .skip)
    (hf : ∀ r, repliesKeyed op r → (f r).Obeys (ledger env w).monitor Q k) :
    (ask op >>= f).Obeys (ledger env w).monitor Q k :=
  Program.obeys_stable (stable_skip hact) hf

theorem obeys_read {op : Op} {f : op.Reply → Service α} (hact : ledgerAct w op = .read)
    (hk : k.Settled)
    (hf : ∀ r, repliesKeyed op r →
      (f r).Obeys (ledger env w).monitor Q (.held (ledgerSeen w op r) true)) :
    (ask op >>= f).Obeys (ledger env w).monitor Q k := by
  refine Program.obeys_perform_bind ?_ fun r hr => ?_
  · change k.Allows (ledgerAct w op)
    rw [hact]
    cases k <;> exact hk
  · change (f r).Obeys _ Q (k.next (ledgerAct w op) (ledgerSeen w op r))
    rw [hact]
    cases k <;> exact hf r hr

theorem obeys_append {op : Op} {f : op.Reply → Service α} {c : Table → Int} {stored : Bool}
    {table : Table} {n : Int} (hact : ledgerAct w op = .append table n) (hn : n = c table + 1)
    (hf : ∀ r, (f r).Obeys (ledger env w).monitor Q (.held (Function.update c table n) false)) :
    (ask op >>= f).Obeys (ledger env w).monitor Q (.held c stored) := by
  refine Program.obeys_perform_bind ?_ fun r _ => ?_
  · change Copy.Allows _ (ledgerAct w op)
    rw [hact]
    exact hn
  · change (f r).Obeys _ Q (Copy.next _ (ledgerAct w op) (ledgerSeen w op r))
    rw [hact]
    exact hf r

theorem obeys_store {op : Op} {f : op.Reply → Service α} {c : Table → Int} {stored : Bool}
    (hact : ledgerAct w op = .store c)
    (hf : ∀ r, (f r).Obeys (ledger env w).monitor Q (.held c true)) :
    (ask op >>= f).Obeys (ledger env w).monitor Q (.held c stored) := by
  refine Program.obeys_perform_bind ?_ fun r _ => ?_
  · change Copy.Allows _ (ledgerAct w op)
    rw [hact]
    rfl
  · change (f r).Obeys _ Q (Copy.next _ (ledgerAct w op) (ledgerSeen w op r))
    rw [hact]
    exact hf r

theorem publish_obeys (id : WorkflowId) :
    (publishWorkflowUpdate id).Obeys (ledger env w).monitor (fun _ k' => k' = k) k :=
  publish_stable (stable_skip rfl)

theorem obeys_publish {id : WorkflowId} {f : Unit → Service α}
    (hf : (f ()).Obeys (ledger env w).monitor Q k) :
    (publishWorkflowUpdate id >>= f).Obeys (ledger env w).monitor Q k := by
  refine (publish_obeys id).bind ?_
  rintro _ _ rfl
  exact hf

theorem stable_persistOp {p : Persisting} {record : WorkflowRecord} (hne : p.workflowId ≠ w)
    (hid : record.summary.workflowId ≠ w) {op : Op} (hop : persistOp p record op) :
    Program.Stable (ledger env w).monitor k op := by
  apply stable_skip
  cases op with
  | writeEvent id' e => simp [ledgerAct, show id' = p.workflowId from hop, hne]
  | writePlanVersion id' v => simp [ledgerAct, show id' = p.workflowId from hop, hne]
  | upsertWorkflow r => simp [ledgerAct, hop.1, hid]
  | unixTimeMsNow | putIdempotencyRecord | publish => rfl
  | _ => exact absurd hop not_false

def countPlan (c : Table → Int) (response : Option RuntimeApiResponse) : Table → Int :=
  if response.any carriesPlan then Function.update c .planVersions (c .planVersions + 1) else c

theorem recordCounters_recordEvent (recordedAt : Int) (record : WorkflowRecord)
    (event : WorkflowEvent) :
    recordCounters (recordEvent recordedAt record event) =
      Function.update (countPlan (recordCounters record) event.response) .events
        (countPlan (recordCounters record) event.response .events + 1) := by
  funext table
  unfold countPlan
  cases table with
  | events => split <;> simp [recordCounters]
  | planVersions => split <;> simp [recordCounters, recordEvent_latestPlanVersion, *]
  | auditEntries => split <;> simp [recordCounters, *]

theorem persistResponse_self {p : Persisting} (hid : p.workflowId = w) (recordedAt : Int)
    {record : WorkflowRecord} {response : Option RuntimeApiResponse} {c : Table → Int}
    (hversion : record.summary.latestPlanVersion = countPlan c response .planVersions) :
    (persistResponse p recordedAt record response).Obeys (ledger env w).monitor
      (fun _ k' => ∃ stored, k' = .held (countPlan c response) stored) (.held c true) := by
  cases response with
  | none => exact Program.obeys_pure ⟨true, rfl⟩
  | some response =>
    have hplan : (persistPlanVersion p recordedAt record response).Obeys (ledger env w).monitor
        (fun _ k' => ∃ stored, k' = .held (countPlan c (some response)) stored) (.held c true) := by
      unfold persistPlanVersion
      by_cases hcarries : carriesPlan response = true
      · have hcount : countPlan c (some response) =
            Function.update c .planVersions (c .planVersions + 1) := by simp [countPlan, hcarries]
        rw [hcount] at hversion ⊢
        rw [if_pos hcarries, hversion, Function.update_self]
        exact obeys_append (by simp [ledgerAct, hid]) rfl fun _ => Program.obeys_pure ⟨false, rfl⟩
      · have hcount : countPlan c (some response) = c := by simp [countPlan, hcarries]
        rw [hcount, if_neg hcarries]
        exact Program.obeys_pure ⟨true, rfl⟩
    refine hplan.bind ?_
    rintro _ k' ⟨stored, rfl⟩
    unfold persistIdempotency
    split
    · exact Program.obeys_pure (Q := fun _ k' => ∃ stored, k' = _) ⟨stored, rfl⟩
    · exact obeys_skip rfl fun _ _ =>
        Program.obeys_pure (Q := fun _ k' => ∃ stored, k' = _) ⟨stored, rfl⟩

/-- The copy of a party that works on `record`: for the ledger of that workflow it is the
record's counters. -/
def Knows (w : WorkflowId) (record : WorkflowRecord) (k : Copy Table) : Prop :=
  k.Settled ∧ (record.summary.workflowId = w → k = .held (recordCounters record) true)

theorem Knows.held {record : WorkflowRecord} {c : Table → Int} (h : recordCounters record = c) :
    Knows w record (.held c true) := ⟨rfl, fun _ => by rw [h]⟩

theorem persistEvent_obeys {p : Persisting} {record : WorkflowRecord}
    (hid : p.workflowId = record.summary.workflowId) (hk : Knows w record k)
    (event : WorkflowEvent) :
    (persistEvent p record event).Obeys (ledger env w).monitor
      (fun record' k' => p.workflowId = record'.summary.workflowId ∧ Knows w record' k') k := by
  refine obeys_skip rfl fun recordedAt _ => ?_
  by_cases hw : p.workflowId = w
  · obtain rfl := hk.2 (hid ▸ hw)
    have hcounters := recordCounters_recordEvent recordedAt record event
    have hversion : (recordEvent recordedAt record event).summary.latestPlanVersion =
        countPlan (recordCounters record) event.response .planVersions := by
      simpa [recordCounters] using congrFun hcounters .planVersions
    have hcount : (recordEvent recordedAt record event).summary.totalEventCount =
        countPlan (recordCounters record) event.response .events + 1 := by
      simpa [recordCounters] using congrFun hcounters .events
    refine (persistResponse_self hw recordedAt hversion).bind ?_
    rintro _ k' ⟨stored, rfl⟩
    refine obeys_append (by rw [ledgerAct, if_pos hw]) hcount fun _ => ?_
    simp only [hcount, ← hcounters]
    refine obeys_store (by simp [ledgerAct, ← hid, hw]) fun _ => ?_
    exact obeys_publish (Program.obeys_pure ⟨by simpa using hid, .held rfl⟩)
  · have hstable : ∀ op, persistOp p record op → Program.Stable (ledger env w).monitor k op :=
      fun op hop => stable_persistOp hw (hid ▸ hw) hop
    refine (persistResponse_stable hstable recordedAt _ event.response).bind ?_
    rintro _ _ rfl
    refine obeys_skip (by simp [ledgerAct, hw]) fun _ _ => ?_
    refine obeys_skip (by simp [ledgerAct, ← hid, hw]) fun _ _ => ?_
    refine obeys_publish (Program.obeys_pure ⟨by simpa using hid, hk.1, fun he => ?_⟩)
    exact absurd (hid.trans (by simpa using he)) hw

theorem persistEvents_obeys {p : Persisting} {record : WorkflowRecord}
    (hid : p.workflowId = record.summary.workflowId) (hk : Knows w record k)
    (events : List WorkflowEvent) :
    (persistEvents p record events).Obeys (ledger env w).monitor (fun _ k' => k'.Settled) k := by
  induction events generalizing record k with
  | nil => exact Program.obeys_pure hk.1
  | cons event rest ih =>
    refine (persistEvent_obeys hid hk event).bind ?_
    rintro record' k' ⟨hid', hk'⟩
    refine (ih hid' hk').bind ?_
    exact fun _ _ hsettled => Program.obeys_pure hsettled

theorem obeys_getWorkflow {id : WorkflowId} {f : Option WorkflowRecord → Service α} (hk : k.Settled)
    (hnone : ∀ k' : Copy Table, k'.Settled → (f none).Obeys (ledger env w).monitor Q k')
    (hsome : ∀ r k', r.summary.workflowId = id → Knows w r k' →
      (f (some r)).Obeys (ledger env w).monitor Q k') :
    (getWorkflow id >>= f).Obeys (ledger env w).monitor Q k := by
  by_cases hw : id = w
  · refine obeys_read (by simp [ledgerAct, hw]) hk fun reply hreply => ?_
    cases reply with
    | none => exact hnone _ rfl
    | some r => exact hsome r _ (hreply r rfl) (.held rfl)
  · refine obeys_skip (by simp [ledgerAct, hw]) fun reply hreply => ?_
    cases reply with
    | none => exact hnone k hk
    | some r =>
      have hid := hreply r rfl
      exact hsome r k hid ⟨hk, fun he => absurd (hid.symm.trans he) hw⟩

theorem obeys_upsert {record record' : WorkflowRecord} {f : Unit → Service α}
    (hk : Knows w record k) (hid : record'.summary.workflowId = record.summary.workflowId)
    (hcounters : recordCounters record' = recordCounters record)
    (hf : ∀ k', Knows w record' k' → (f ()).Obeys (ledger env w).monitor Q k') :
    (upsertWorkflow record' >>= f).Obeys (ledger env w).monitor Q k := by
  by_cases hw : record.summary.workflowId = w
  · obtain rfl := hk.2 hw
    exact obeys_store (by simp [ledgerAct, hid, hw, hcounters]) fun _ => hf _ (.held hcounters)
  · exact obeys_skip (by simp [ledgerAct, hid, hw]) fun _ _ =>
      hf k ⟨hk.1, fun he => absurd (hid ▸ he) hw⟩

theorem obeys_audit {record record' : WorkflowRecord} {entry : AuditEntry} {f : Unit → Service α}
    (hk : Knows w record k) (hid : record'.summary.workflowId = record.summary.workflowId)
    (hsequence : entry.sequence = record.summary.totalAuditEntryCount + 1)
    (hcounters : recordCounters record' =
      Function.update (recordCounters record) .auditEntries entry.sequence)
    (hf : ∀ k', Knows w record' k' → (f ()).Obeys (ledger env w).monitor Q k') :
    (writeAuditEntry record.summary.workflowId entry >>= fun _ =>
      upsertWorkflow record' >>= f).Obeys
      (ledger env w).monitor Q k := by
  by_cases hw : record.summary.workflowId = w
  · obtain rfl := hk.2 hw
    refine obeys_append (by rw [ledgerAct, if_pos hw]) hsequence fun _ => ?_
    rw [← hcounters]
    exact obeys_store (by simp [ledgerAct, hid, hw]) fun _ => hf _ (.held rfl)
  · refine obeys_skip (by simp [ledgerAct, hw]) fun _ _ => ?_
    exact obeys_skip (by simp [ledgerAct, hid, hw]) fun _ _ =>
      hf k ⟨hk.1, fun he => absurd (hid ▸ he) hw⟩

/-- The program keeps the ledger of the workflow, from any settled copy. -/
def Disciplined (env : Environment) (w : WorkflowId) (p : Service α) : Prop :=
  ∀ k : Copy Table, k.Settled → p.Obeys (ledger env w).monitor (fun _ k' => k'.Settled) k

theorem disciplined_pure (a : α) : Disciplined env w (pure a) := fun _ hk => Program.obeys_pure hk

theorem Disciplined.bind {β : Type} {p : Service α} {f : α → Service β} (hp : Disciplined env w p)
    (hf : ∀ a, Disciplined env w (f a)) : Disciplined env w (p >>= f) :=
  fun k hk => (hp k hk).bind fun a k' hk' => hf a k' hk'

theorem Disciplined.map {β : Type} {p : Service α} (f : α → β) (hp : Disciplined env w p) :
    Disciplined env w (f <$> p) := hp.bind fun a => disciplined_pure (f a)

theorem lifecycleAction_disciplined (newState : WorkflowRecord → WorkflowLifecycleState)
    (action defaultDetail : String) (request : LifecycleRequest) :
    Disciplined env w (lifecycleAction newState action defaultDetail request) := by
  intro k hk
  refine obeys_getWorkflow hk (fun k' hk' => Program.obeys_pure hk') fun stored k' hid hknows => ?_
  refine obeys_skip rfl fun updatedAt _ => ?_
  refine obeys_upsert hknows rfl (funext fun table => by cases table <;> rfl) fun k' hknows => ?_
  refine obeys_skip rfl fun recordedAt _ => ?_
  rw [← hid]
  refine obeys_audit hknows rfl rfl (funext fun table => by cases table <;> rfl) fun k' hknows => ?_
  exact obeys_publish (Program.obeys_pure hknows.1)

theorem recordCounters_submittedRecord (request : SubmitWorkflowRequest) (now : Int)
    (existing : Option WorkflowRecord) :
    recordCounters (submittedRecord request now existing) =
      (existing.map recordCounters).getD fun _ => 0 := by
  funext table
  cases existing <;> cases table <;> simp [recordCounters]

theorem submitted_obeys {request : SubmitWorkflowRequest} {now : Int}
    {existing : Option WorkflowRecord}
    (hid : ∀ r ∈ existing, r.summary.workflowId = request.config.id) (hk : k.Settled)
    (hcopy : request.config.id = w →
      k = .held ((existing.map recordCounters).getD fun _ => 0) true) :
    Program.Obeys (ledger env w).monitor (fun _ k' => k'.Settled) k (do
      upsertWorkflow (submittedRecord request now existing)
      publishWorkflowUpdate request.config.id
      hydratedInsert request.config.id
      let events ← runtimeSubmitWorkflow request
      persistEvents (submitPersisting env request) (submittedRecord request now
        existing) events) := by
  have hid' := submittedRecord_workflowId request now existing hid
  have hcounters := recordCounters_submittedRecord request now existing
  have hknows : Knows w (submittedRecord request now existing) k :=
    ⟨hk, fun he => by rw [hcopy (hid' ▸ he), hcounters]⟩
  refine obeys_upsert hknows rfl rfl fun k' hk' => ?_
  refine obeys_publish (obeys_skip rfl fun _ _ => ?_)
  refine obeys_skip rfl fun events _ => ?_
  exact persistEvents_obeys hid'.symm hk' events

theorem submitAccepted_disciplined {request : SubmitWorkflowRequest}
    (hreplace : request.replaceExisting = some true) :
    Disciplined env w (submitAccepted env request) := by
  intro k hk
  refine obeys_skip rfl fun now _ => ?_
  simp only [existingRecord, hreplace, Option.getD_some, if_true]
  by_cases hw : request.config.id = w
  · refine obeys_read (by simp [ledgerAct, hw]) hk fun existing hid => ?_
    exact submitted_obeys hid rfl fun _ => rfl
  · refine obeys_skip (by simp [ledgerAct, hw]) fun existing hid => ?_
    exact submitted_obeys hid hk fun h => absurd h hw

/-- A submission that does not look up the stored record: only for a workflow without one
are the counters of its record those of the store. -/
theorem submitAccepted_new {request : SubmitWorkflowRequest}
    (hreplace : request.replaceExisting ≠ some true) (hk : k.Settled)
    (hcopy : request.config.id = w → k = .held (fun _ => 0) true) :
    (submitAccepted env request).Obeys (ledger env w).monitor (fun _ k' => k'.Settled) k := by
  refine obeys_skip rfl fun now _ => ?_
  have hnot : request.replaceExisting.getD false = false := by
    cases hr : request.replaceExisting with
    | none => rfl
    | some b => cases b <;> simp_all
  simp only [existingRecord, hnot, Bool.false_eq_true, if_false]
  exact submitted_obeys (fun r hr => absurd hr (by simp)) hk hcopy

theorem streamSubmitWorkflow_obeys {request : SubmitWorkflowRequest} (hk : k.Settled)
    (haccepted : (submitAccepted env request).Obeys (ledger env w).monitor (fun _ k' => k'.Settled)
      k) :
    (streamSubmitWorkflow env request).Obeys (ledger env w).monitor (fun _ k' => k'.Settled) k := by
  simp only [streamSubmitWorkflow]
  split
  · exact haccepted
  · refine obeys_skip rfl fun existing _ => ?_
    cases existing with
    | none => exact haccepted
    | some existing =>
      dsimp only
      split <;> exact Program.obeys_pure hk

theorem streamSubmitWorkflow_disciplined {request : SubmitWorkflowRequest}
    (hreplace : request.replaceExisting = some true) :
    Disciplined env w (streamSubmitWorkflow env request) :=
  fun k hk => streamSubmitWorkflow_obeys hk (submitAccepted_disciplined hreplace k hk)

theorem hydrate_obeys (auth : ClientAuthContext) (workflowId : WorkflowId)
    (config : WorkflowConfig) :
    (hydrate auth workflowId config).Obeys (ledger env w).monitor (fun _ k' => k' = k) k := by
  refine obeys_skip rfl fun hydrated _ => ?_
  split
  · exact Program.obeys_pure rfl
  · refine obeys_skip rfl fun events _ => ?_
    dsimp only
    split
    · exact Program.obeys_pure rfl
    · exact obeys_skip rfl fun _ _ => Program.obeys_pure rfl

theorem reorchestrateAccepted_obeys {request : ReorchestrateRequest} {record : WorkflowRecord}
    (hid : record.summary.workflowId = request.workflowId) (hk : Knows w record k) :
    (reorchestrateAccepted env request record).Obeys (ledger env w).monitor (fun _ k' => k'.Settled)
      k :=
  obeys_skip rfl fun events _ => persistEvents_obeys hid.symm hk events

theorem reorchestrateGuarded_obeys {request : ReorchestrateRequest} {record : WorkflowRecord}
    (hid : record.summary.workflowId = request.workflowId) (hk : Knows w record k) :
    (reorchestrateGuarded env request record).Obeys (ledger env w).monitor (fun _ k' => k'.Settled)
      k := by
  refine (hydrate_obeys request.auth request.workflowId record.config).bind ?_
  rintro failure k' rfl
  cases failure with
  | some response => exact Program.obeys_pure hk.1
  | none =>
    dsimp only
    split
    · exact reorchestrateAccepted_obeys hid hk
    · refine obeys_skip rfl fun existing _ => ?_
      cases existing with
      | none => exact reorchestrateAccepted_obeys hid hk
      | some existing =>
        dsimp only
        split <;> exact Program.obeys_pure hk.1

theorem streamReorchestrate_disciplined (request : ReorchestrateRequest) :
    Disciplined env w (streamReorchestrate env request) := by
  intro k hk
  refine obeys_getWorkflow hk (fun k' hk' => Program.obeys_pure hk') fun record k' hid hknows => ?_
  dsimp only
  split
  · exact Program.obeys_pure hknows.1
  · exact reorchestrateGuarded_obeys hid hknows

theorem applyManualIntervention_disciplined (request : ManualInterventionRequest) :
    Disciplined env w (applyManualIntervention env request) := by
  intro k hk
  refine obeys_getWorkflow hk (fun k' hk' => Program.obeys_pure hk') fun stored k' hid hknows => ?_
  refine obeys_skip rfl fun recordedAt _ => ?_
  rw [← hid]
  refine obeys_audit hknows rfl rfl (funext fun table => by cases table <;> rfl) fun k' hknows => ?_
  refine obeys_publish ((streamReorchestrate_disciplined _ k' hknows.1).bind
    fun events k'' hk'' => ?_)
  refine obeys_getWorkflow hk'' (fun k' hk' => ?_) fun refreshed k' _ hknows => ?_
  · split <;> exact Program.obeys_pure hk'
  · split <;> exact Program.obeys_pure hknows.1

theorem recoverWorkflow_self (auth : ClientAuthContext) {workflow : WorkflowRecord}
    (hk : Knows w workflow k) :
    (recoverWorkflow auth workflow).Obeys (ledger env w).monitor (fun _ k' => k'.Settled) k := by
  refine obeys_skip rfl fun recordedAt _ => ?_
  refine obeys_audit hk rfl rfl (funext fun table => by cases table <;> rfl) fun k' hknows => ?_
  refine obeys_publish (obeys_skip rfl fun _ _ => ?_)
  exact obeys_skip rfl fun _ _ => Program.obeys_pure hknows.1

theorem recoverWorkflow_other (auth : ClientAuthContext) {workflow : WorkflowRecord}
    (hne : workflow.summary.workflowId ≠ w) :
    (recoverWorkflow auth workflow).Obeys (ledger env w).monitor (fun _ k' => k' = k) k := by
  refine obeys_skip rfl fun recordedAt _ => ?_
  refine obeys_skip (by simp [ledgerAct, hne]) fun _ _ => ?_
  refine obeys_skip (by simp [ledgerAct, hne]) fun _ _ => ?_
  refine obeys_publish (obeys_skip rfl fun _ _ => ?_)
  exact obeys_skip rfl fun _ _ => Program.obeys_pure rfl

theorem recoverWorkflows_obeys (auth : ClientAuthContext) {workflows : List WorkflowRecord}
    (hnodup : (workflows.map recordKey).Nodup) (hk : k.Settled)
    (hknows : ∀ r ∈ workflows, Knows w r k) :
    (recoverWorkflows auth workflows).Obeys (ledger env w).monitor (fun _ k' => k'.Settled) k := by
  induction workflows generalizing k with
  | nil => exact Program.obeys_pure hk
  | cons workflow rest ih =>
    obtain ⟨hnew, hrest⟩ := List.nodup_cons.mp hnodup
    have hrestKnows : ∀ r ∈ rest, Knows w r k := fun r hr => hknows r (List.mem_cons_of_mem _ hr)
    unfold recoverWorkflows
    split
    · exact ih hrest hk hrestKnows
    · by_cases hw : workflow.summary.workflowId = w
      · have hworkflow := hknows workflow List.mem_cons_self
        refine (recoverWorkflow_self auth hworkflow).bind fun _ k' hk' =>
          ih hrest hk' fun r hr => ⟨hk', ?_⟩
        intro hid
        exact absurd (List.mem_map.mpr ⟨r, hr, hid.trans hw.symm⟩) hnew
      · refine (recoverWorkflow_other auth hw).bind ?_
        rintro _ _ rfl
        exact ih hrest hk hrestKnows

theorem recoverActiveWorkflows_disciplined (auth : ClientAuthContext) :
    Disciplined env w (recoverActiveWorkflows auth) := by
  intro k hk
  refine obeys_read rfl hk fun workflows hnodup => ?_
  refine recoverWorkflows_obeys auth hnodup rfl fun r hr => ⟨rfl, fun hid => ?_⟩
  have hfind : workflows.find? (fun r => recordKey r = w) = some r :=
    (KeyedRows.get?_eq_some_iff ⟨workflows, hnodup⟩ w r).mpr ⟨hr, hid⟩
  simp [ledgerSeen, hfind]

theorem appendAuditEntry_disciplined (workflowId : WorkflowId) (actor action detail : String) :
    Disciplined env w (Operator.appendAuditEntry workflowId actor action detail) := by
  intro k hk
  refine obeys_getWorkflow hk (fun k' hk' => Program.obeys_pure hk') fun stored k' hid hknows => ?_
  refine obeys_skip rfl fun recordedAt _ => ?_
  rw [← hid]
  refine obeys_audit hknows rfl rfl (funext fun table => by cases table <;> rfl) fun k' hknows => ?_
  refine (publish_obeys _).mono ?_
  rintro _ _ rfl
  exact hknows.1

theorem submitAndAudit_disciplined (config : WorkflowConfig) (auth : ClientAuthContext)
    (idempotencyKey : Option String) (workflowId : WorkflowId) (actor action detail : String) :
    Disciplined env w
      (Operator.submitAndAudit env config auth idempotencyKey workflowId actor action detail) := by
  refine (streamSubmitWorkflow_disciplined rfl).bind fun events => ?_
  exact (appendAuditEntry_disciplined workflowId actor action detail).bind fun _ =>
    disciplined_pure _

/-- A request that never submits without `replace_existing`. -/
def Request.Replacing : Request → Prop
  | submit request => request.replaceExisting = some true
  | _ => True

theorem Request.program_disciplined {request : Request} (h : request.Replacing) :
    Disciplined env w (request.program env) := by
  cases request with
  | submit request => exact (streamSubmitWorkflow_disciplined h).map _
  | reorchestrate request => exact (streamReorchestrate_disciplined request).map _
  | pause request => exact (lifecycleAction_disciplined _ _ _ request).map _
  | resume request => exact (lifecycleAction_disciplined _ _ _ request).map _
  | cancel request => exact (lifecycleAction_disciplined _ _ _ request).map _
  | intervene request => exact (applyManualIntervention_disciplined request).map _
  | recover auth => exact (recoverActiveWorkflows_disciplined auth).map _
  | operatorUpsertWorkflow request =>
    apply Disciplined.map
    unfold Operator.upsertWorkflow
    split
    · exact disciplined_pure _
    · exact submitAndAudit_disciplined _ _ _ _ _ _ _
  | operatorUpsertTask request =>
    apply Disciplined.map
    unfold Operator.upsertTask
    split
    · exact disciplined_pure _
    split
    · exact disciplined_pure _
    intro k hk
    refine obeys_getWorkflow hk (fun k' hk' => Program.obeys_pure hk') fun r k' _ hknows => ?_
    exact submitAndAudit_disciplined _ _ _ _ _ _ _ k' hknows.1
  | operatorDeleteTask request =>
    apply Disciplined.map
    unfold Operator.deleteTask
    split
    · exact disciplined_pure _
    split
    · exact disciplined_pure _
    intro k hk
    refine obeys_getWorkflow hk (fun k' hk' => Program.obeys_pure hk') fun r k' _ hknows => ?_
    dsimp only
    split
    · exact submitAndAudit_disciplined _ _ _ _ _ _ _ k' hknows.1
    · exact Program.obeys_pure hknows.1
  | operatorPause request =>
    exact ((lifecycleAction_disciplined _ _ _ _).bind fun _ => disciplined_pure _).map _
  | operatorResume request =>
    exact ((lifecycleAction_disciplined _ _ _ _).bind fun _ => disciplined_pure _).map _
  | operatorCancel request =>
    exact ((lifecycleAction_disciplined _ _ _ _).bind fun _ => disciplined_pure _).map _
  | operatorIntervene request =>
    exact ((applyManualIntervention_disciplined request).bind fun _ => disciplined_pure _).map _
  | prune recordedBefore =>
    exact Disciplined.map _ fun k hk => obeys_skip rfl fun _ _ => Program.obeys_pure hk

end Discipline

end TaskOrchestrator.System
