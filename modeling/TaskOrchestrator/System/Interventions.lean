import TaskOrchestrator.System.Sessions
import TaskOrchestrator.System.Idempotency
import Mathlib.Logic.Function.Iterate

/-!
# Audit entries of manual interventions

An intervention writes its audit entry, and counts it, before its re-orchestration meets the first
guard. So the entry says that the intervention was applied whatever the guards decide, and every
retry writes another one.
-/

namespace TaskOrchestrator.System

open Protocol Library ControlPlane

set_option autoImplicit false

def intervened (env : Environment) (request : ManualInterventionRequest) (w : World) : World :=
  (serve env (.intervene request) w).2

/-- The re-orchestration is refused by a guard of the control plane, or its key is in the
idempotency table. The table is read after the hydration. -/
def TurnedAway (env : Environment) (w : World) (request : ReorchestrateRequest)
    (record : WorkflowRecord) : Prop :=
  reorchestrateRefusal request record ≠ none ∨
    (request.workflowId ∈ w.hydrated ∨ replaySucceeds env request.auth record.config = true) ∧
      KeyHit w (request.idempotencyKey.getD "")

/-- The later state has that many audit entries more, each of an intervention on the workflow. -/
def EntriesAdded (workflowId : WorkflowId) (added : Nat) (before after : World) : Prop :=
  ∃ entries, after.store.auditEntries.rows = before.store.auditEntries.rows ++ entries ∧
    entries.length = added ∧
    ∀ row ∈ entries, row.workflowId = workflowId ∧ row.payload.action = "manual_intervention"

/-- The intervention is recorded exactly when it is applied: nothing is stored when it is turned
away, and one entry is added when it reaches the runtime. -/
def RecordedWhenApplied (env : Environment) (request : ManualInterventionRequest)
    (stored : WorkflowRecord) (w : World) : Prop :=
  (TurnedAway env w (interventionReorchestrateRequest request) stored →
    (intervened env request w).store = w.store) ∧
  (ReachesRuntime env w (interventionReorchestrateRequest request) stored →
    EntriesAdded request.workflowId 1 w (intervened env request w))

/-- No audit entry of the workflow has the number that comes next. -/
def NextEntryFree (workflowId : WorkflowId) (stored : WorkflowRecord) (w : World) : Prop :=
  (workflowId, stored.summary.totalAuditEntryCount + 1) ∉ w.store.auditEntries.rows.map
    HistoryRow.key

def EntriesCounted (workflowId : WorkflowId) (stored : WorkflowRecord) (w : World) : Prop :=
  ∀ row ∈ w.store.auditEntries.rows, row.workflowId = workflowId →
    row.sequence ≤ stored.summary.totalAuditEntryCount

theorem EntriesCounted.nextEntryFree {workflowId : WorkflowId} {stored : WorkflowRecord} {w : World}
    (h : EntriesCounted workflowId stored w) : NextEntryFree workflowId stored w := by
  intro hmem
  obtain ⟨row, hrow, hkey⟩ := List.mem_map.mp hmem
  obtain ⟨hid, hsequence⟩ := Prod.mk.inj hkey
  have hcounted := h row hrow hid
  omega

theorem EntriesAdded.trans {workflowId : WorkflowId} {m n : Nat} {u v w : World}
    (huv : EntriesAdded workflowId m u v) (hvw : EntriesAdded workflowId n v w) :
    EntriesAdded workflowId (m + n) u w := by
  obtain ⟨first, hfirst, hm, hfirstRows⟩ := huv
  obtain ⟨second, hsecond, hn, hsecondRows⟩ := hvw
  refine ⟨first ++ second, ?_, by rw [List.length_append, hm, hn], fun row hrow => ?_⟩
  · rw [hsecond, hfirst, List.append_assoc]
  · rcases List.mem_append.mp hrow with hrow | hrow
    · exact hfirstRows row hrow
    · exact hsecondRows row hrow

theorem EntriesAdded.length {workflowId : WorkflowId} {n : Nat} {v w : World}
    (h : EntriesAdded workflowId n v w) :
    w.store.auditEntries.rows.length = v.store.auditEntries.rows.length + n := by
  obtain ⟨entries, hrows, hn, -⟩ := h
  rw [hrows, List.length_append, hn]

section Reorchestration

variable (env : Environment) (w : World)

/-- A re-orchestration leaves the number of audit entries in every record as it is. -/
theorem streamReorchestrate_auditCount (request : ReorchestrateRequest) (id : WorkflowId) :
    (((streamReorchestrate env request).run (handle env) w).2.store.getWorkflow id).map
        (fun r => r.summary.totalAuditEntryCount) =
      (w.store.getWorkflow id).map fun r => r.summary.totalAuditEntryCount := by
  by_cases hreaches : ∃ record, ReachesRuntime env w request record
  · obtain ⟨record, hreaches⟩ := hreaches
    rw [run_streamReorchestrate_reaches env hreaches, run_reorchestrateAccepted,
      getWorkflow_persistEvents]
    split_ifs with hid
    · have hstored := hreaches.1
      have hsame : request.workflowId = id :=
        (Store.workflowId_of_getWorkflow hstored).symm.trans hid.2
      rw [← hsame, hstored]
      simp
    · rw [← hydratedWorld_store env request record w]
  · have hstops := run_streamReorchestrate_stops env fun record hrecord =>
      hreaches ⟨record, hrecord⟩
    rw [hstops.2.store]

theorem streamReorchestrate_audit (request : ReorchestrateRequest) {record : WorkflowRecord}
    (hrecord : w.store.getWorkflow request.workflowId = some record) :
    let after := ((streamReorchestrate env request).run (handle env) w).2
    after.store.auditEntries = w.store.auditEntries ∧
      ∃ refreshed, after.store.getWorkflow request.workflowId = some refreshed ∧
        refreshed.summary.totalAuditEntryCount = record.summary.totalAuditEntryCount := by
  dsimp only
  constructor
  · by_cases hreaches : ∃ found, ReachesRuntime env w request found
    · obtain ⟨found, hreaches⟩ := hreaches
      rw [run_streamReorchestrate_reaches env hreaches, run_reorchestrateAccepted,
        (run_persistEvents_frame env _ _ _ _).2.2.2]
      dsimp only
      rw [hydratedWorld_store]
    · obtain ⟨-, hreplayed⟩ := run_streamReorchestrate_stops env fun found hfound =>
        hreaches ⟨found, hfound⟩
      rw [hreplayed.store]
  · have hcount := streamReorchestrate_auditCount env w request request.workflowId
    rw [hrecord, Option.map_some] at hcount
    exact Option.map_eq_some_iff.mp hcount

theorem applyManualIntervention_store_iff (request : ManualInterventionRequest) :
    ((applyManualIntervention env request).run (handle env) w).2.store = w.store ↔
      w.store.getWorkflow request.workflowId = none := by
  cases hstored : w.store.getWorkflow request.workflowId with
  | none => simp [applyManualIntervention, hstored]
  | some stored =>
    simp only [reduceCtorEq, iff_false]
    intro hsame
    have hcount := streamReorchestrate_auditCount env (auditedWorld request stored w)
      (interventionReorchestrateRequest request) request.workflowId
    rw [← run_applyManualIntervention env hstored, hsame, auditedWorld_getWorkflow hstored,
      if_pos rfl, hstored] at hcount
    simp only [Option.map_some, withAudit, Option.some.injEq] at hcount
    omega

end Reorchestration

section Intervention

variable {env : Environment} {request : ManualInterventionRequest} {stored : WorkflowRecord}
variable {w : World}

theorem intervened_eq (hstored : w.store.getWorkflow request.workflowId = some stored) :
    intervened env request w =
      ((streamReorchestrate env (interventionReorchestrateRequest request)).run (handle env)
        (auditedWorld request stored w)).2 := by
  rw [← run_applyManualIntervention env hstored]
  simp only [intervened, serve, Request.program, Program.run_map]

theorem intervened_audit (env : Environment)
    (hstored : w.store.getWorkflow request.workflowId = some stored) :
    (∃ row : HistoryRow AuditPayload,
      row.key = (request.workflowId, stored.summary.totalAuditEntryCount + 1) ∧
      row.payload.action = "manual_intervention" ∧
      (intervened env request w).store.auditEntries = w.store.auditEntries.put row) ∧
    ∃ refreshed, (intervened env request w).store.getWorkflow request.workflowId = some refreshed ∧
      refreshed.summary.totalAuditEntryCount = stored.summary.totalAuditEntryCount + 1 := by
  have haudited := auditedWorld_getWorkflow hstored request.workflowId
  rw [if_pos rfl] at haudited
  obtain ⟨hentries, hcounter⟩ := streamReorchestrate_audit env (auditedWorld request stored w)
    (interventionReorchestrateRequest request) haudited
  rw [intervened_eq hstored]
  refine ⟨⟨_, ?_, ?_, hentries⟩, hcounter⟩
  · rfl
  · rfl

theorem intervened_store_ne (hstored : w.store.getWorkflow request.workflowId = some stored) :
    (intervened env request w).store ≠ w.store := by
  intro hsame
  have hkept : ((applyManualIntervention env request).run (handle env) w).2.store = w.store := by
    rw [← hsame]
    simp only [intervened, serve, Request.program, Program.run_map]
  have hmissing := (applyManualIntervention_store_iff env w request).mp hkept
  exact absurd (hstored.symm.trans hmissing) (by simp)

theorem entriesAdded_one_iff (env : Environment)
    (hstored : w.store.getWorkflow request.workflowId = some stored) :
    EntriesAdded request.workflowId 1 w (intervened env request w) ↔
      NextEntryFree request.workflowId stored w := by
  obtain ⟨⟨row, hkey, haction, hentries⟩, -⟩ := intervened_audit env hstored
  have hid : row.workflowId = request.workflowId := (Prod.mk.inj hkey).1
  unfold NextEntryFree
  rw [← hkey]
  constructor
  · intro hadded hmem
    have hlength := hadded.length
    rw [hentries, KeyedRows.length_put_old hmem] at hlength
    omega
  · intro hnew
    refine ⟨[row], by rw [hentries, KeyedRows.rows_put_new hnew], rfl, fun other hother => ?_⟩
    obtain rfl := List.mem_singleton.mp hother
    exact ⟨hid, haction⟩

theorem entriesCounted_intervened (env : Environment)
    (hstored : w.store.getWorkflow request.workflowId = some stored)
    (hcounted : EntriesCounted request.workflowId stored w) :
    ∃ refreshed, (intervened env request w).store.getWorkflow request.workflowId = some refreshed ∧
      EntriesCounted request.workflowId refreshed (intervened env request w) := by
  obtain ⟨⟨row, hkey, -, hentries⟩, refreshed, hrefreshed, hcounter⟩ := intervened_audit env hstored
  refine ⟨refreshed, hrefreshed, fun other hother hid => ?_⟩
  rw [hentries, KeyedRows.mem_put] at hother
  rcases hother with rfl | ⟨hother, -⟩
  · have hsequence := (Prod.mk.inj hkey).2
    omega
  · have hold := hcounted other hother hid
    omega

theorem entriesAdded_retries (env : Environment)
    (hstored : w.store.getWorkflow request.workflowId = some stored)
    (hcounted : EntriesCounted request.workflowId stored w) (n : Nat) :
    EntriesAdded request.workflowId n w ((intervened env request)^[n] w) := by
  induction n generalizing w stored with
  | zero => exact ⟨[], by simp, rfl, by simp⟩
  | succ n ih =>
    have hfirst := (entriesAdded_one_iff env hstored).mpr hcounted.nextEntryFree
    obtain ⟨refreshed, hrefreshed, hkept⟩ := entriesCounted_intervened env hstored hcounted
    rw [Function.iterate_succ_apply, Nat.add_comm]
    exact hfirst.trans (ih hrefreshed hkept)

end Intervention

/-- An intervention on a stored workflow is recorded exactly when it is applied if and only if it
is not turned away and, where it reaches the runtime, its number is free. Of several calls only a
single one leaves one entry. -/
theorem intervention_recorded_iff (env : Environment) (request : ManualInterventionRequest)
    (w : World) (stored : WorkflowRecord)
    (hstored : w.store.getWorkflow request.workflowId = some stored) :
    (RecordedWhenApplied env request stored w ↔
      ¬ TurnedAway env w (interventionReorchestrateRequest request) stored ∧
      (ReachesRuntime env w (interventionReorchestrateRequest request) stored →
        NextEntryFree request.workflowId stored w)) ∧
    (EntriesCounted request.workflowId stored w → ∀ retries,
      (EntriesAdded request.workflowId 1 w ((intervened env request)^[retries + 1] w) ↔
        retries = 0)) := by
  constructor
  · unfold RecordedWhenApplied
    rw [entriesAdded_one_iff env hstored]
    refine and_congr_left fun _ => ?_
    exact ⟨fun h haway => intervened_store_ne hstored (h haway), fun h haway => absurd haway h⟩
  · intro hcounted retries
    have hadded := entriesAdded_retries env hstored hcounted (retries + 1)
    constructor
    · intro hone
      have hlength := hone.length
      rw [hadded.length] at hlength
      omega
    · rintro rfl
      exact hadded

def keyedIntervention : ManualInterventionRequest where
  workflowId := "w"
  triggerReorchestration := true
  idempotencyKey := some "key"

def plannedOnceWorld : World := runWorld openEnvironment plannedOnce newDatabase

/-- The first intervention is applied and recorded, once; two retries are recorded too. -/
theorem first_intervention_recorded :
    ∃ stored, plannedOnceWorld.store.getWorkflow "w" = some stored ∧
      RecordedWhenApplied openEnvironment keyedIntervention stored plannedOnceWorld ∧
      ¬ EntriesAdded "w" 1 plannedOnceWorld
        ((intervened openEnvironment keyedIntervention)^[3] plannedOnceWorld) := by
  have hplanned : (plannedOnceWorld.store.getWorkflow "w").map (fun r => r.summary.state) =
      some .planned := by decide
  obtain ⟨stored, hstored, hstate⟩ := Option.map_eq_some_iff.mp hplanned
  have hentries : plannedOnceWorld.store.auditEntries.rows = [] := by decide
  obtain ⟨hrecorded, hretries⟩ :=
    intervention_recorded_iff openEnvironment keyedIntervention plannedOnceWorld stored
    hstored
  have hcounted : EntriesCounted "w" stored plannedOnceWorld := by
    intro row hrow
    simp [hentries] at hrow
  refine ⟨stored, hstored, hrecorded.mpr ⟨?_, fun _ => hcounted.nextEntryFree⟩, fun hone => ?_⟩
  · rintro (hrefused | ⟨-, -, hhit⟩)
    · apply hrefused
      rw [reorchestrateRefusal_eq_none, hstate]
      exact ⟨by decide, by decide, by simp [interventionReorchestrateRequest, keyedIntervention]⟩
    · exact absurd hhit (by decide)
  · exact absurd ((hretries hcounted 2).mp hone) (by decide)

/-- The retry is answered from the idempotency table and recorded once more. -/
theorem retried_intervention_recorded_again :
    ∃ stored, (intervened openEnvironment keyedIntervention plannedOnceWorld).store.getWorkflow
      "w" = some stored ∧
      ¬ RecordedWhenApplied openEnvironment keyedIntervention stored
        (intervened openEnvironment keyedIntervention plannedOnceWorld) := by
  have hfound : ((intervened openEnvironment keyedIntervention plannedOnceWorld).store.getWorkflow
      "w").isSome = true :=
    by decide
  obtain ⟨stored, hstored⟩ := Option.isSome_iff_exists.mp hfound
  refine ⟨stored, hstored, fun hrecorded => ?_⟩
  have hsame := hrecorded.1 (Or.inr ⟨Or.inl (by decide), by decide, by decide⟩)
  have hlengths : (intervened openEnvironment keyedIntervention
      (intervened openEnvironment keyedIntervention
        plannedOnceWorld)).store.auditEntries.rows.length = 2 ∧
      (intervened openEnvironment keyedIntervention
        plannedOnceWorld).store.auditEntries.rows.length = 1 := by
    decide
  rw [hsame] at hlengths
  omega

end TaskOrchestrator.System
