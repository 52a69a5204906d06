import TaskOrchestrator.Application.Dashboard
import TaskOrchestrator.Library.Announcements

/-!
# The reads behind a dashboard

The history of the selected workflow is put together from several calls to the store, which may
change between them. When it does not, the result is that of `selectedHistory`.
-/

namespace TaskOrchestrator.Operator

open Protocol Library ControlPlane Http
open Program (Obeys obeys_pure obeys_perform_bind reading)

set_option autoImplicit false

inductive Read where
  | getWorkflow (workflowId : WorkflowId)
  | listEvents (workflowId : WorkflowId) (limit : Nat)
  | listPlanVersions (workflowId : WorkflowId) (limit : Nat)
  | listAuditEntries (workflowId : WorkflowId) (limit : Nat)

@[reducible] def Read.Reply : Read → Type
  | .getWorkflow _ => Option WorkflowRecord
  | .listEvents _ _ => List WorkflowEventRecord
  | .listPlanVersions _ _ => List WorkflowPlanVersion
  | .listAuditEntries _ _ => List AuditEntry

@[reducible] def storeReads : Signature := ⟨Read, Read.Reply⟩

def Read.workflowId : Read → WorkflowId
  | .getWorkflow workflowId => workflowId
  | .listEvents workflowId _ => workflowId
  | .listPlanVersions workflowId _ => workflowId
  | .listAuditEntries workflowId _ => workflowId

def Read.answer : (read : Read) → Store → read.Reply
  | .getWorkflow workflowId, store => store.getWorkflow workflowId
  | .listEvents workflowId limit, store =>
    (latestRows limit workflowId store.events.rows).map fun row =>
    { sequence := row.sequence, recordedAtUnixMs := row.recordedAtUnixMs, event := row.payload }
  | .listPlanVersions workflowId limit, store =>
    (latestRows limit workflowId store.planVersions.rows).map fun row =>
    { version := row.sequence, recordedAtUnixMs := row.recordedAtUnixMs, response := row.payload }
  | .listAuditEntries workflowId limit, store =>
    (latestRows limit workflowId store.auditEntries.rows).map fun row =>
    { sequence := row.sequence
      recordedAtUnixMs := row.recordedAtUnixMs
      actor := row.payload.actor
      action := row.payload.action
      detail := row.payload.detail }

def readStore (read : Read) : Program storeReads read.Reply := .perform (S := storeReads) read

def readWorkflowHistory (request : GetWorkflowHistoryRequest) :
    Program storeReads GetWorkflowHistoryResponse := do
  match ← readStore (.getWorkflow request.workflowId) with
  | some workflow => do
    let events ← readStore (.listEvents request.workflowId request.maxEvents.toNat)
    let planVersions ← readStore
      (.listPlanVersions request.workflowId request.maxPlanVersions.toNat)
    let auditEntries ← readStore
      (.listAuditEntries request.workflowId request.maxAuditEntries.toNat)
    pure { ok := true, workflow, events, planVersions, auditEntries }
  | none => pure { ok := false, errorMessage := "Workflow record not found." }

def planDiffAmong (planVersions : List WorkflowPlanVersion) (request : GetPlanDiffRequest) :
    GetPlanDiffResponse :=
  match planVersions.find? (fun version => version.version = request.fromPlanVersion),
      planVersions.find? fun version => version.version = request.toPlanVersion with
  | some fromVersion, some toVersion =>
    { ok := true, diff := diffPlanVersions fromVersion.response toVersion.response }
  | _, _ => { ok := false, errorMessage := "Requested plan versions were not found." }

def readPlanDiff (request : GetPlanDiffRequest) : Program storeReads GetPlanDiffResponse := do
  let planVersions ← readStore (.listPlanVersions request.workflowId 0)
  pure (planDiffAmong planVersions request)

def selectedHistoryRequest (workflowId : WorkflowId) (request : GetOperatorDashboardRequest) :
    GetWorkflowHistoryRequest where
  workflowId := workflowId
  maxEvents := positiveOr request.maxEvents kDefaultHistoryLimit
  maxPlanVersions := positiveOr request.maxPlanVersions kDefaultHistoryLimit
  maxAuditEntries := positiveOr request.maxAuditEntries kDefaultHistoryLimit

/-- The plan diff between the last two versions of a history. -/
def readLatestDiff (workflowId : WorkflowId) (history : GetWorkflowHistoryResponse) :
    Program storeReads (GetWorkflowHistoryResponse × GetPlanDiffResponse) :=
  if history.ok = false then pure (history, {})
  else
    match history.planVersions.reverse with
    | latest :: previous :: _ => do
      let diff ← readPlanDiff
        { workflowId := workflowId, fromPlanVersion := previous.version,
          toPlanVersion := latest.version }
      pure (history, diff)
    | _ => pure (history, { ok := true })

/-- `populate_selected_workflow` for an id that is not empty. -/
def readSelectedWorkflow (workflowId : WorkflowId) (request : GetOperatorDashboardRequest) :
    Program storeReads (GetWorkflowHistoryResponse × GetPlanDiffResponse) := do
  let history ← readWorkflowHistory (selectedHistoryRequest workflowId request)
  readLatestDiff workflowId history

section Values

variable (store : Store) (workflowId : WorkflowId) (request : GetOperatorDashboardRequest)

theorem valueAt_readWorkflowHistory (request : GetWorkflowHistoryRequest) :
    (readWorkflowHistory request).valueAt Read.answer store = getWorkflowHistory store request := by
  have hstart : (readStore (.getWorkflow request.workflowId)).valueAt Read.answer store =
      store.getWorkflow request.workflowId := rfl
  unfold readWorkflowHistory getWorkflowHistory
  rw [Program.valueAt_bind, hstart]
  cases store.getWorkflow request.workflowId with
  | none => rfl
  | some workflow => rfl

theorem valueAt_readPlanDiff (request : GetPlanDiffRequest) :
    (readPlanDiff request).valueAt Read.answer store = getPlanDiff store request := by
  have hlist : (readStore (.listPlanVersions request.workflowId 0)).valueAt Read.answer store =
      listPlanVersions store request.workflowId := by
    change (latestRows 0 request.workflowId store.planVersions.rows).map _ = _
    unfold latestRows listPlanVersions
    rw [if_neg (by omega)]
  unfold readPlanDiff
  rw [Program.valueAt_bind, hlist]
  rfl

theorem valueAt_readLatestDiff (history : GetWorkflowHistoryResponse) :
    (readLatestDiff workflowId history).valueAt Read.answer store =
      if history.ok = false then (history, {})
      else
        match history.planVersions.reverse with
        | latest :: previous :: _ => (history, getPlanDiff store
            { workflowId := workflowId, fromPlanVersion := previous.version,
              toPlanVersion := latest.version })
        | _ => (history, { ok := true }) := by
  unfold readLatestDiff
  split_ifs
  · rfl
  · cases history.planVersions.reverse with
    | nil => rfl
    | cons latest rest =>
      cases rest with
      | nil => rfl
      | cons previous rest =>
        dsimp only
        rw [Program.valueAt_bind, valueAt_readPlanDiff]
        rfl

theorem valueAt_readSelectedWorkflow :
    (readSelectedWorkflow workflowId request).valueAt Read.answer store =
      selectedHistory store workflowId request := by
  unfold readSelectedWorkflow
  rw [Program.valueAt_bind, valueAt_readWorkflowHistory, valueAt_readLatestDiff]
  rfl

end Values

/-- Reads about one workflow, with a result that satisfies the predicate. -/
abbrev ReadsOnly (workflowId : WorkflowId) {β : Type} (P : β → Prop)
    (p : Program storeReads β) : Prop :=
  p.Obeys (reading (T := storeReads) fun read => some read.workflowId = some workflowId)
    (fun b _ => P b) ()

theorem readsOnly_read (read : Read) {workflowId : WorkflowId}
    (hread : read.workflowId = workflowId) {β : Type} {P : β → Prop}
    {k : read.Reply → Program storeReads β} (hk : ∀ reply, ReadsOnly workflowId P (k reply)) :
    ReadsOnly workflowId P (readStore read >>= k) := by
  refine obeys_perform_bind ?_ fun reply _ => hk reply
  exact congrArg some hread

theorem readsOnly_latestDiff (workflowId : WorkflowId) (history : GetWorkflowHistoryResponse) :
    ReadsOnly workflowId (fun result => result.1.ok = history.ok)
      (readLatestDiff workflowId history) := by
  unfold readLatestDiff
  split_ifs
  · exact obeys_pure rfl
  · split
    · rename_i latest previous _ _
      have hdiff : ReadsOnly workflowId (fun _ => True) (readPlanDiff
          { workflowId := workflowId, fromPlanVersion := previous.version,
            toPlanVersion := latest.version }) :=
        readsOnly_read _ rfl fun _ => obeys_pure trivial
      apply hdiff.bind
      intro diff _ _
      exact obeys_pure rfl
    · exact obeys_pure rfl

/-- The rest of the reads after the first, which looks for the record. -/
def readFoundWorkflow (workflowId : WorkflowId) (request : GetOperatorDashboardRequest)
    (found : Option WorkflowRecord) :
    Program storeReads (GetWorkflowHistoryResponse × GetPlanDiffResponse) :=
  match found with
  | some workflow => do
    let events ← readStore
      (.listEvents workflowId (positiveOr request.maxEvents kDefaultHistoryLimit).toNat)
    let planVersions ← readStore
      (.listPlanVersions workflowId (positiveOr request.maxPlanVersions kDefaultHistoryLimit).toNat)
    let auditEntries ← readStore
      (.listAuditEntries workflowId (positiveOr request.maxAuditEntries kDefaultHistoryLimit).toNat)
    readLatestDiff workflowId { ok := true, workflow, events, planVersions, auditEntries }
  | none => readLatestDiff workflowId { ok := false, errorMessage := "Workflow record not found." }

theorem readSelectedWorkflow_eq (workflowId : WorkflowId) (request : GetOperatorDashboardRequest) :
    readSelectedWorkflow workflowId request =
      .call (.getWorkflow workflowId) (readFoundWorkflow workflowId request) := by
  change Program.call (S := storeReads) _ _ = _
  congr 1
  funext found
  cases found with
  | none => rfl
  | some workflow => rfl

theorem readsOnly_foundWorkflow (workflowId : WorkflowId) (request : GetOperatorDashboardRequest)
    (found : Option WorkflowRecord) :
    ReadsOnly workflowId (fun result => result.1.ok = found.isSome)
      (readFoundWorkflow workflowId request found) := by
  cases found with
  | none => exact (readsOnly_latestDiff workflowId _).mono fun _ _ h => h
  | some workflow =>
    apply readsOnly_read _ rfl
    intro events
    apply readsOnly_read _ rfl
    intro planVersions
    apply readsOnly_read _ rfl
    intro auditEntries
    exact (readsOnly_latestDiff workflowId _).mono fun _ _ h => h

theorem readsOnly_selectedWorkflow (workflowId : WorkflowId)
    (request : GetOperatorDashboardRequest) :
    ReadsOnly workflowId (fun _ => True) (readSelectedWorkflow workflowId request) := by
  rw [readSelectedWorkflow_eq]
  exact ⟨rfl, fun found _ => (readsOnly_foundWorkflow workflowId request found).mono fun _ _ _ =>
    trivial⟩

end TaskOrchestrator.Operator
