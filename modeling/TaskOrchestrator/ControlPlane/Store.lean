import TaskOrchestrator.Protocol.Messages
import TaskOrchestrator.Library.KeyedRows
import Mathlib.Data.List.Sort

/-!
# The SQLite workflow store

The five tables of `SqliteWorkflowStore`. Each method holds the store's mutex, so each
is one atomic step. Messages are stored as serialized blobs and parsed back; the blob of
a message is modelled by the message. Columns that repeat a part of the blob and that no
query reads are left out.
-/

namespace TaskOrchestrator.ControlPlane

open Protocol Library

set_option autoImplicit false

/-- A row of `workflow_events`, `workflow_plan_versions` or `workflow_audit_entries`. -/
structure HistoryRow (π : Type) where
  workflowId : WorkflowId
  sequence : Int
  recordedAtUnixMs : Int
  bootId : String
  payload : π
  deriving DecidableEq

def HistoryRow.key {π : Type} (row : HistoryRow π) : WorkflowId × Int :=
  (row.workflowId, row.sequence)

structure AuditPayload where
  actor : String
  action : String
  detail : String
  deriving DecidableEq

structure IdempotencyRow where
  record : IdempotencyRecord
  bootId : String
  deriving DecidableEq

def recordKey (record : WorkflowRecord) : WorkflowId := record.summary.workflowId

def idempotencyRowKey (row : IdempotencyRow) : String := row.record.key

structure Store where
  currentBootId : String
  records : KeyedRows recordKey
  events : KeyedRows (HistoryRow.key (π := WorkflowEvent))
  planVersions : KeyedRows (HistoryRow.key (π := RuntimeApiResponse))
  auditEntries : KeyedRows (HistoryRow.key (π := AuditPayload))
  idempotency : KeyedRows idempotencyRowKey

namespace Store

/-- The schema of a new database file. -/
def initial (bootId : String) : Store where
  currentBootId := bootId
  records := .empty
  events := .empty
  planVersions := .empty
  auditEntries := .empty
  idempotency := .empty

def upsertWorkflow (store : Store) (workflow : WorkflowRecord) : Store :=
  { store with records := store.records.put workflow }

def getWorkflow (store : Store) (workflowId : WorkflowId) : Option WorkflowRecord :=
  store.records.get? workflowId

/-- `ORDER BY updated_at_unix_ms DESC, workflow_id ASC`. -/
def RecordBefore (a b : WorkflowRecord) : Prop :=
  b.summary.updatedAtUnixMs < a.summary.updatedAtUnixMs ∨
    (a.summary.updatedAtUnixMs = b.summary.updatedAtUnixMs ∧
      a.summary.workflowId ≤ b.summary.workflowId)

instance : DecidableRel RecordBefore := fun a b =>
  inferInstanceAs (Decidable (b.summary.updatedAtUnixMs < a.summary.updatedAtUnixMs ∨
    (a.summary.updatedAtUnixMs = b.summary.updatedAtUnixMs ∧
      a.summary.workflowId ≤ b.summary.workflowId)))

def listAllWorkflows (store : Store) : List WorkflowRecord :=
  store.records.rows.insertionSort RecordBefore

def eventRow (bootId : String) (workflowId : WorkflowId) (eventRecord : WorkflowEventRecord) :
    HistoryRow WorkflowEvent where
  workflowId := workflowId
  sequence := eventRecord.sequence
  recordedAtUnixMs := eventRecord.recordedAtUnixMs
  bootId := bootId
  payload := eventRecord.event

def planVersionRow (bootId : String) (workflowId : WorkflowId) (planVersion : WorkflowPlanVersion) :
    HistoryRow RuntimeApiResponse where
  workflowId := workflowId
  sequence := planVersion.version
  recordedAtUnixMs := planVersion.recordedAtUnixMs
  bootId := bootId
  payload := planVersion.response

def auditRow (bootId : String) (workflowId : WorkflowId) (auditEntry : AuditEntry) :
    HistoryRow AuditPayload where
  workflowId := workflowId
  sequence := auditEntry.sequence
  recordedAtUnixMs := auditEntry.recordedAtUnixMs
  bootId := bootId
  payload := ⟨auditEntry.actor, auditEntry.action, auditEntry.detail⟩

def writeEvent (store : Store) (workflowId : WorkflowId)
    (eventRecord : WorkflowEventRecord) : Store :=
  { store with events := store.events.put (eventRow store.currentBootId workflowId eventRecord) }

def writePlanVersion (store : Store) (workflowId : WorkflowId)
    (planVersion : WorkflowPlanVersion) : Store :=
  { store with planVersions :=
      store.planVersions.put (planVersionRow store.currentBootId workflowId planVersion) }

def writeAuditEntry (store : Store) (workflowId : WorkflowId) (auditEntry : AuditEntry) : Store :=
  { store with
    auditEntries := store.auditEntries.put (auditRow store.currentBootId workflowId auditEntry) }

def putIdempotencyRecord (store : Store) (record : IdempotencyRecord) : Store :=
  { store with
    idempotency := store.idempotency.put { record := record, bootId := store.currentBootId } }

def getIdempotencyRecord (store : Store) (key : String) : Option IdempotencyRecord :=
  (store.idempotency.get? key).map IdempotencyRow.record

/-- The delete condition of the history tables: `counter` is the number in the workflow's
record, and `COALESCE(counter, sequence)` keeps every row of a workflow without a record. -/
def staleHistoryRow {π : Type} (store : Store) (recordedBefore : Int)
    (counter : WorkflowSummary → Int) (row : HistoryRow π) : Bool :=
  row.bootId ≠ store.currentBootId && row.recordedAtUnixMs < recordedBefore &&
    row.sequence < ((store.getWorkflow row.workflowId).map fun r => counter r.summary).getD
      row.sequence

def staleIdempotencyRow (store : Store) (recordedBefore : Int) (row : IdempotencyRow) : Bool :=
  row.bootId ≠ store.currentBootId && row.record.recordedAtUnixMs < recordedBefore

def pruneStaleBootData (store : Store) (recordedBefore : Int) : Store :=
  { store with
    events := store.events.deleteWhere
      (store.staleHistoryRow recordedBefore WorkflowSummary.totalEventCount)
    planVersions := store.planVersions.deleteWhere
      (store.staleHistoryRow recordedBefore WorkflowSummary.latestPlanVersion)
    auditEntries := store.auditEntries.deleteWhere
      (store.staleHistoryRow recordedBefore WorkflowSummary.totalAuditEntryCount)
    idempotency := store.idempotency.deleteWhere (store.staleIdempotencyRow recordedBefore) }

theorem mem_listAllWorkflows (store : Store) (r : WorkflowRecord) :
    r ∈ store.listAllWorkflows ↔ store.getWorkflow r.summary.workflowId = some r := by
  rw [listAllWorkflows, List.mem_insertionSort, getWorkflow, KeyedRows.get?_eq_some_iff]
  exact ⟨fun h => ⟨h, rfl⟩, fun h => h.1⟩

theorem listAllWorkflows_nodup (store : Store) :
    (store.listAllWorkflows.map recordKey).Nodup :=
  ((List.perm_insertionSort RecordBefore store.records.rows).map recordKey).nodup_iff.mpr
    store.records.nodup

theorem workflowId_of_getWorkflow {store : Store} {workflowId : WorkflowId} {r : WorkflowRecord}
    (h : store.getWorkflow workflowId = some r) : r.summary.workflowId = workflowId := by
  change recordKey r = workflowId
  exact KeyedRows.key_of_get? h

theorem getWorkflow_upsertWorkflow (store : Store) (r : WorkflowRecord) (workflowId : WorkflowId) :
    (store.upsertWorkflow r).getWorkflow workflowId =
      if r.summary.workflowId = workflowId then some r else store.getWorkflow workflowId :=
  KeyedRows.get?_put store.records r workflowId

@[simp] theorem getWorkflow_writeAuditEntry (store : Store) (id : WorkflowId) (entry : AuditEntry)
    (workflowId : WorkflowId) :
    (store.writeAuditEntry id entry).getWorkflow workflowId = store.getWorkflow workflowId := rfl

theorem key_of_getIdempotencyRecord {store : Store} {key : String} {record : IdempotencyRecord}
    (h : store.getIdempotencyRecord key = some record) : record.key = key := by
  obtain ⟨row, hrow, rfl⟩ := Option.map_eq_some_iff.mp h
  change idempotencyRowKey row = key
  exact KeyedRows.key_of_get? hrow

theorem getIdempotencyRecord_put (store : Store) (record : IdempotencyRecord) (key : String) :
    (store.putIdempotencyRecord record).getIdempotencyRecord key =
      if record.key = key then some record else store.getIdempotencyRecord key := by
  unfold getIdempotencyRecord putIdempotencyRecord
  rw [KeyedRows.get?_put]
  change Option.map _ (if record.key = key then _ else _) = _
  split <;> rfl

end Store

end TaskOrchestrator.ControlPlane
