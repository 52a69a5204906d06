import TaskOrchestrator.ControlPlane.Store
import TaskOrchestrator.ControlPlane.UpdateFeed
import TaskOrchestrator.Application.RuntimeService
import TaskOrchestrator.Library.Program

/-!
# The calls a service operation is made of

The shared state of the process and the atomic calls on it: the methods of the store,
the two streams of the runtime service, the hydration set, the update feed and the
system clock. Everything but the store is lost when the process stops.
-/

namespace TaskOrchestrator.ControlPlane

open Protocol Library

set_option autoImplicit false

/-- What the code relies on and this model leaves open: the security settings, the
optimizer, and the fingerprint of a serialized request (`std::hash` of its bytes). -/
structure Environment where
  security : SecurityConfig
  optimize : App.WorkflowConfig → App.RunResult
  submitFingerprint : SubmitWorkflowRequest → String
  reorchestrateFingerprint : ReorchestrateRequest → String

/-- `clock` lists the readings of the system clock, `ticks` how many were taken. The
readings need not be ordered. -/
structure World where
  store : Store
  sessions : App.Sessions
  hydrated : List WorkflowId
  feed : UpdateFeed
  clock : Nat → Int
  ticks : Nat

inductive Op where
  | unixTimeMsNow
  | upsertWorkflow (workflow : WorkflowRecord)
  | getWorkflow (workflowId : WorkflowId)
  | listAllWorkflows
  | writeEvent (workflowId : WorkflowId) (eventRecord : WorkflowEventRecord)
  | writePlanVersion (workflowId : WorkflowId) (planVersion : WorkflowPlanVersion)
  | writeAuditEntry (workflowId : WorkflowId) (auditEntry : AuditEntry)
  | putIdempotencyRecord (record : IdempotencyRecord)
  | getIdempotencyRecord (key : String)
  | pruneStaleBootData (recordedBefore : Int)
  | hydratedContains (workflowId : WorkflowId)
  | hydratedInsert (workflowId : WorkflowId)
  | runtimeSubmitWorkflow (request : SubmitWorkflowRequest)
  | runtimeReorchestrate (request : ReorchestrateRequest)
  | publish (workflowId : WorkflowId)
  deriving DecidableEq

@[reducible] def Op.Reply : Op → Type
  | .unixTimeMsNow => Int
  | .getWorkflow _ => Option WorkflowRecord
  | .listAllWorkflows => List WorkflowRecord
  | .getIdempotencyRecord _ => Option IdempotencyRecord
  | .hydratedContains _ => Bool
  | .runtimeSubmitWorkflow _ => List WorkflowEvent
  | .runtimeReorchestrate _ => List WorkflowEvent
  | _ => Unit

@[reducible] def calls : Signature := ⟨Op, Op.Reply⟩

abbrev Service (α : Type) := Program calls α

def handle (env : Environment) : Handler calls World
  | .unixTimeMsNow, w => (w.clock w.ticks, { w with ticks := w.ticks + 1 })
  | .upsertWorkflow r, w => ((), { w with store := w.store.upsertWorkflow r })
  | .getWorkflow id, w => (w.store.getWorkflow id, w)
  | .listAllWorkflows, w => (w.store.listAllWorkflows, w)
  | .writeEvent id e, w => ((), { w with store := w.store.writeEvent id e })
  | .writePlanVersion id v, w => ((), { w with store := w.store.writePlanVersion id v })
  | .writeAuditEntry id a, w => ((), { w with store := w.store.writeAuditEntry id a })
  | .putIdempotencyRecord r, w => ((), { w with store := w.store.putIdempotencyRecord r })
  | .getIdempotencyRecord key, w => (w.store.getIdempotencyRecord key, w)
  | .pruneStaleBootData before, w => ((), { w with store := w.store.pruneStaleBootData before })
  | .hydratedContains id, w => (decide (id ∈ w.hydrated), w)
  | .hydratedInsert id, w => ((), { w with hydrated := w.hydrated.insert id })
  | .runtimeSubmitWorkflow request, w =>
    ((App.streamSubmitWorkflow env.security env.optimize request w.sessions).1,
      { w with
        sessions := (App.streamSubmitWorkflow env.security env.optimize request w.sessions).2 })
  | .runtimeReorchestrate request, w =>
    ((App.streamReorchestrate env.security env.optimize request w.sessions).1,
      { w with
        sessions := (App.streamReorchestrate env.security env.optimize request w.sessions).2 })
  | .publish id, w => ((), { w with feed := w.feed.publish id })

/-- The process as it starts on a new database file. -/
def World.initial (bootId : String) (clock : Nat → Int) : World where
  store := .initial bootId
  sessions := .empty
  hydrated := []
  feed := { retainedEvents := 256 }
  clock := clock
  ticks := 0

/-- The process is stopped and started again on the same database file. -/
def World.restart (bootId : String) (w : World) : World :=
  { w with
    store := { w.store with currentBootId := bootId }
    sessions := .empty
    hydrated := []
    feed := { retainedEvents := 256 } }

def ask (op : Op) : Service op.Reply := .perform (S := calls) op

def unixTimeMsNow : Service Int := ask .unixTimeMsNow
def upsertWorkflow (workflow : WorkflowRecord) : Service Unit := ask (.upsertWorkflow workflow)
def getWorkflow (workflowId : WorkflowId) : Service (Option WorkflowRecord) :=
  ask (.getWorkflow workflowId)
def listAllWorkflows : Service (List WorkflowRecord) := ask .listAllWorkflows
def writeEvent (workflowId : WorkflowId) (eventRecord : WorkflowEventRecord) : Service Unit :=
  ask (.writeEvent workflowId eventRecord)
def writePlanVersion (workflowId : WorkflowId) (planVersion : WorkflowPlanVersion) : Service Unit :=
  ask (.writePlanVersion workflowId planVersion)
def writeAuditEntry (workflowId : WorkflowId) (auditEntry : AuditEntry) : Service Unit :=
  ask (.writeAuditEntry workflowId auditEntry)
def putIdempotencyRecord (record : IdempotencyRecord) : Service Unit :=
  ask (.putIdempotencyRecord record)
def getIdempotencyRecord (key : String) : Service (Option IdempotencyRecord) :=
  ask (.getIdempotencyRecord key)
def pruneStaleBootData (recordedBefore : Int) : Service Unit :=
  ask (.pruneStaleBootData recordedBefore)
def hydratedContains (workflowId : WorkflowId) : Service Bool := ask (.hydratedContains workflowId)
def hydratedInsert (workflowId : WorkflowId) : Service Unit := ask (.hydratedInsert workflowId)
def runtimeSubmitWorkflow (request : SubmitWorkflowRequest) : Service (List WorkflowEvent) :=
  ask (.runtimeSubmitWorkflow request)
def runtimeReorchestrate (request : ReorchestrateRequest) : Service (List WorkflowEvent) :=
  ask (.runtimeReorchestrate request)

/-- `publish_workflow_update`: an empty workflow id is not published. -/
def publishWorkflowUpdate (workflowId : WorkflowId) : Service Unit :=
  if workflowId = "" then pure () else ask (.publish workflowId)

section Runs

variable (env : Environment) (w : World)

@[simp] theorem run_unixTimeMsNow :
    unixTimeMsNow.run (handle env) w = (w.clock w.ticks, { w with ticks := w.ticks + 1 }) := rfl

@[simp] theorem run_upsertWorkflow (record : WorkflowRecord) :
    (upsertWorkflow record).run (handle env) w =
      ((), { w with store := w.store.upsertWorkflow record }) := rfl

@[simp] theorem run_getWorkflow (workflowId : WorkflowId) :
    (getWorkflow workflowId).run (handle env) w = (w.store.getWorkflow workflowId, w) := rfl

@[simp] theorem run_listAllWorkflows :
    listAllWorkflows.run (handle env) w = (w.store.listAllWorkflows, w) := rfl

@[simp] theorem run_writeEvent (workflowId : WorkflowId) (eventRecord : WorkflowEventRecord) :
    (writeEvent workflowId eventRecord).run (handle env) w =
      ((), { w with store := w.store.writeEvent workflowId eventRecord }) := rfl

@[simp] theorem run_writePlanVersion (workflowId : WorkflowId) (planVersion : WorkflowPlanVersion) :
    (writePlanVersion workflowId planVersion).run (handle env) w =
      ((), { w with store := w.store.writePlanVersion workflowId planVersion }) := rfl

@[simp] theorem run_writeAuditEntry (workflowId : WorkflowId) (auditEntry : AuditEntry) :
    (writeAuditEntry workflowId auditEntry).run (handle env) w =
      ((), { w with store := w.store.writeAuditEntry workflowId auditEntry }) := rfl

@[simp] theorem run_putIdempotencyRecord (record : IdempotencyRecord) :
    (putIdempotencyRecord record).run (handle env) w =
      ((), { w with store := w.store.putIdempotencyRecord record }) := rfl

@[simp] theorem run_getIdempotencyRecord (key : String) :
    (getIdempotencyRecord key).run (handle env) w = (w.store.getIdempotencyRecord key, w) := rfl

@[simp] theorem run_hydratedContains (workflowId : WorkflowId) :
    (hydratedContains workflowId).run (handle env) w = (decide (workflowId ∈ w.hydrated), w) := rfl

@[simp] theorem run_hydratedInsert (workflowId : WorkflowId) :
    (hydratedInsert workflowId).run (handle env) w =
      ((), { w with hydrated := w.hydrated.insert workflowId }) := rfl

@[simp] theorem run_runtimeSubmitWorkflow (request : SubmitWorkflowRequest) :
    (runtimeSubmitWorkflow request).run (handle env) w =
      ((App.streamSubmitWorkflow env.security env.optimize request w.sessions).1,
        { w with sessions :=
          (App.streamSubmitWorkflow env.security env.optimize request w.sessions).2 }) := rfl

@[simp] theorem run_runtimeReorchestrate (request : ReorchestrateRequest) :
    (runtimeReorchestrate request).run (handle env) w =
      ((App.streamReorchestrate env.security env.optimize request w.sessions).1,
        { w with sessions :=
          (App.streamReorchestrate env.security env.optimize request w.sessions).2 }) := rfl

@[simp] theorem run_publishWorkflowUpdate (workflowId : WorkflowId) :
    (publishWorkflowUpdate workflowId).run (handle env) w =
      ((), { w with feed := if workflowId = "" then w.feed else w.feed.publish workflowId }) := by
  unfold publishWorkflowUpdate
  split <;> rfl

end Runs

end TaskOrchestrator.ControlPlane
