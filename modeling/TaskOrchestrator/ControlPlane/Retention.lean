import TaskOrchestrator.ControlPlane.PlanDiff
import Mathlib.Data.List.MinMax

/-!
# Pruning of the histories

`prune_stale_boot_data` compares the number of a row with the counter in the record of its
workflow. Where the counters are the numbers of the latest rows, it deletes what belongs to another
boot, is older than the cutoff and is not the latest of its kind.
-/

namespace TaskOrchestrator.ControlPlane

open Protocol Library

set_option autoImplicit false

structure StoragePruneResult where
  prunedEventRows : Nat := 0
  prunedPlanVersionRows : Nat := 0
  prunedAuditEntryRows : Nat := 0
  prunedIdempotencyRows : Nat := 0
  deriving DecidableEq

/-- What `prune_stale_boot_data` returns: the numbers of rows that it deletes. -/
def pruneResult (store : Store) (recordedBefore : Int) : StoragePruneResult where
  prunedEventRows :=
    store.events.rows.countP (store.staleHistoryRow recordedBefore WorkflowSummary.totalEventCount)
  prunedPlanVersionRows :=
    store.planVersions.rows.countP
      (store.staleHistoryRow recordedBefore WorkflowSummary.latestPlanVersion)
  prunedAuditEntryRows :=
    store.auditEntries.rows.countP
      (store.staleHistoryRow recordedBefore WorkflowSummary.totalAuditEntryCount)
  prunedIdempotencyRows := store.idempotency.rows.countP (store.staleIdempotencyRow recordedBefore)

section History

variable {π : Type}

/-- The largest number among the rows of a workflow, and 0 if it has none. -/
def largestSequence (rows : List (HistoryRow π)) (workflowId : WorkflowId) : Int :=
  ((rows.filter fun row => row.workflowId = workflowId).map HistoryRow.sequence).max?.getD 0

def IsLatest (rows : List (HistoryRow π)) (row : HistoryRow π) : Prop :=
  ∀ other ∈ rows, other.workflowId = row.workflowId → other.sequence ≤ row.sequence

structure CountedBy (records : KeyedRows recordKey) (rows : List (HistoryRow π))
    (counter : WorkflowSummary → Int) :
    Prop where
  references : ∀ row ∈ rows, (records.get? row.workflowId).isSome
  counter : ∀ record ∈ records.rows, counter record.summary =
    largestSequence rows record.summary.workflowId

/-- The row belongs to another boot, is older than the cutoff and is not the latest of its workflow. -/
def Stale (store : Store) (recordedBefore : Int) (rows : List (HistoryRow π))
    (row : HistoryRow π) : Prop :=
  row.bootId ≠ store.currentBootId ∧ row.recordedAtUnixMs < recordedBefore ∧ ¬IsLatest rows row

end History

/-- The foreign keys of the histories hold and the counters of every record are those of its
histories. -/
structure CountersExact (store : Store) : Prop where
  events : CountedBy store.records store.events.rows WorkflowSummary.totalEventCount
  planVersions : CountedBy store.records store.planVersions.rows WorkflowSummary.latestPlanVersion
  auditEntries : CountedBy store.records store.auditEntries.rows
    WorkflowSummary.totalAuditEntryCount

/-- Exactly the stale rows of the four tables are gone. -/
structure PrunesStale (store : Store) (recordedBefore : Int) (pruned : Store) : Prop where
  events : ∀ row, row ∈ pruned.events.rows ↔
    row ∈ store.events.rows ∧ ¬Stale store recordedBefore store.events.rows row
  planVersions : ∀ row, row ∈ pruned.planVersions.rows ↔
    row ∈ store.planVersions.rows ∧ ¬Stale store recordedBefore store.planVersions.rows row
  auditEntries : ∀ row, row ∈ pruned.auditEntries.rows ↔
    row ∈ store.auditEntries.rows ∧ ¬Stale store recordedBefore store.auditEntries.rows row
  idempotency : ∀ row, row ∈ pruned.idempotency.rows ↔
    row ∈ store.idempotency.rows ∧
      ¬(row.bootId ≠ store.currentBootId ∧ row.record.recordedAtUnixMs < recordedBefore)

section History

variable {π : Type} {rows : List (HistoryRow π)}

theorem largestSequence_eq_iff {workflowId : WorkflowId} {n : Int}
    (hsome : ∃ row ∈ rows, row.workflowId = workflowId) :
    largestSequence rows workflowId = n ↔
      (∃ row ∈ rows, row.workflowId = workflowId ∧ row.sequence = n) ∧
        ∀ row ∈ rows, row.workflowId = workflowId → row.sequence ≤ n := by
  obtain ⟨row, hrow, hid⟩ := hsome
  unfold largestSequence
  cases hmax :
    ((rows.filter fun row => row.workflowId = workflowId).map HistoryRow.sequence).max? with
  | none =>
    have hnil := List.max?_eq_none_iff.mp hmax
    rw [List.map_eq_nil_iff, List.filter_eq_nil_iff] at hnil
    exact absurd (by simpa using hid) (hnil row hrow)
  | some largest =>
    have hlargest := List.max?_eq_some_iff.mp hmax
    simp only [List.mem_map, List.mem_filter, decide_eq_true_eq] at hlargest
    obtain ⟨⟨top, ⟨htop, htopId⟩, hsequence⟩, hbound⟩ := hlargest
    have hle : ∀ other ∈ rows, other.workflowId = workflowId → other.sequence ≤ largest :=
      fun other hother hotherId => hbound _ ⟨other, ⟨hother, hotherId⟩, rfl⟩
    rw [Option.getD_some]
    constructor
    · rintro rfl
      exact ⟨⟨top, htop, htopId, hsequence⟩, hle⟩
    · rintro ⟨⟨other, hother, hotherId, rfl⟩, hall⟩
      exact le_antisymm (hsequence ▸ hall top htop htopId) (hle other hother hotherId)

theorem lt_largestSequence_iff {row : HistoryRow π} (hrow : row ∈ rows) :
    row.sequence < largestSequence rows row.workflowId ↔ ¬IsLatest rows row := by
  obtain ⟨⟨top, htop, htopId, hsequence⟩, hbound⟩ :=
    (@largestSequence_eq_iff _ rows _ _ ⟨row, hrow, rfl⟩).mp rfl
  rw [← not_le, not_iff_not]
  constructor
  · intro hle other hother hid
    exact le_trans (hbound other hother hid) hle
  · intro hlatest
    exact hsequence ▸ hlatest top htop htopId

variable {store : Store} {counter : WorkflowSummary → Int}

theorem staleHistoryRow_iff (h : CountedBy store.records rows counter) (recordedBefore : Int)
    {row : HistoryRow π} (hrow : row ∈ rows) :
    store.staleHistoryRow recordedBefore counter row = true ↔
    Stale store recordedBefore rows row := by
  obtain ⟨record, hrecord⟩ := Option.isSome_iff_exists.mp (h.references row hrow)
  have hmem := ((KeyedRows.get?_eq_some_iff _ _ _).mp hrecord).1
  have hget : store.getWorkflow row.workflowId = some record := hrecord
  have hid : record.summary.workflowId = row.workflowId := Store.workflowId_of_getWorkflow hget
  have hcounter : counter record.summary = largestSequence rows row.workflowId :=
    hid ▸ h.counter record hmem
  rw [Store.staleHistoryRow, hget, Option.map_some, Option.getD_some, hcounter,
    Stale, ← lt_largestSequence_iff hrow]
  simp [and_assoc]

variable {kept : List (HistoryRow π)} {recordedBefore : Int}

/-- The latest rows are kept, so that the largest numbers stay the same. -/
theorem countedBy_of_kept (h : CountedBy store.records rows counter)
    (hkept : ∀ row, row ∈ kept ↔ row ∈ rows ∧ ¬Stale store recordedBefore rows row) :
    CountedBy store.records kept counter := by
  refine ⟨fun row hrow => h.references row ((hkept row).mp hrow).1, fun record hrecord => ?_⟩
  rw [h.counter record hrecord]
  by_cases hsome : ∃ row ∈ rows, row.workflowId = record.summary.workflowId
  · obtain ⟨⟨top, htop, htopId, hsequence⟩, hbound⟩ := (largestSequence_eq_iff hsome).mp rfl
    have hlatest : IsLatest rows top := fun other hother hid =>
      hsequence ▸ hbound other hother (hid.trans htopId)
    have htopKept : top ∈ kept := (hkept top).mpr ⟨htop, fun hstale => hstale.2.2 hlatest⟩
    symm
    rw [largestSequence_eq_iff ⟨top, htopKept, htopId⟩]
    exact ⟨⟨top, htopKept, htopId, hsequence⟩, fun row hrow => hbound row ((hkept row).mp hrow).1⟩
  · have hnone : ∀ list : List (HistoryRow π), (∀ row ∈ list, row ∈ rows) →
        largestSequence list record.summary.workflowId = 0 := by
      intro list hlist
      have hnil : list.filter (fun row => row.workflowId = record.summary.workflowId) = [] := by
        rw [List.filter_eq_nil_iff]
        intro row hrow hid
        exact hsome ⟨row, hlist row hrow, by simpa using hid⟩
      rw [largestSequence, hnil]
      rfl
    rw [hnone rows fun row hrow => hrow, hnone kept fun row hrow => ((hkept row).mp hrow).1]

end History

section Prune

variable {store : Store} (recordedBefore : Int)

theorem prunesStale (h : CountersExact store) :
    PrunesStale store recordedBefore (store.pruneStaleBootData recordedBefore) where
  events row := by
    rw [Store.pruneStaleBootData, KeyedRows.mem_deleteWhere, ← Bool.not_eq_true,
      and_congr_right_iff]
    exact fun hrow => not_congr (staleHistoryRow_iff h.events recordedBefore hrow)
  planVersions row := by
    rw [Store.pruneStaleBootData, KeyedRows.mem_deleteWhere, ← Bool.not_eq_true,
      and_congr_right_iff]
    exact fun hrow => not_congr (staleHistoryRow_iff h.planVersions recordedBefore hrow)
  auditEntries row := by
    rw [Store.pruneStaleBootData, KeyedRows.mem_deleteWhere, ← Bool.not_eq_true,
      and_congr_right_iff]
    exact fun hrow => not_congr (staleHistoryRow_iff h.auditEntries recordedBefore hrow)
  idempotency row := by
    rw [Store.pruneStaleBootData, KeyedRows.mem_deleteWhere, ← Bool.not_eq_true,
      Store.staleIdempotencyRow, Bool.and_eq_true, decide_eq_true_eq, decide_eq_true_eq]

theorem countersExact_prune (h : CountersExact store) :
    CountersExact (store.pruneStaleBootData recordedBefore) where
  events := countedBy_of_kept h.events (prunesStale recordedBefore h).events
  planVersions := countedBy_of_kept h.planVersions (prunesStale recordedBefore h).planVersions
  auditEntries := countedBy_of_kept h.auditEntries (prunesStale recordedBefore h).auditEntries

/-- A row that is left is not one to delete: the condition reads only the records and the boot id,
which a prune leaves alone. -/
theorem pruneResult_prune (store : Store) :
    pruneResult (store.pruneStaleBootData recordedBefore) recordedBefore = {} := by
  have hnone : ∀ {ρ : Type} (rows : List ρ) (stale : ρ → Bool),
      (rows.filter fun row => !stale row).countP stale = 0 := by
    intro ρ rows stale
    rw [List.countP_eq_zero]
    intro row hrow
    simpa using (List.mem_filter.mp hrow).2
  unfold pruneResult
  congr 1 <;> exact hnone _ _

theorem pruneStaleBootData_twice (store : Store) :
    (store.pruneStaleBootData recordedBefore).pruneStaleBootData recordedBefore =
      store.pruneStaleBootData recordedBefore := by
  have htwice : ∀ {ρ κ : Type} {key : ρ → κ} (table : KeyedRows key) (stale : ρ → Bool),
      (table.deleteWhere stale).deleteWhere stale = table.deleteWhere stale := by
    intro ρ κ key table stale
    apply KeyedRows.ext
    simp [KeyedRows.deleteWhere]
  unfold Store.pruneStaleBootData
  congr 1 <;> exact htwice _ _

def VersionsSurvive (pruned : Store) (request : GetPlanDiffRequest) : Prop :=
  (pruned.planVersions.get? (request.workflowId, request.fromPlanVersion)).isSome ∧
    (pruned.planVersions.get? (request.workflowId, request.toPlanVersion)).isSome

theorem getPlanDiff_prune {request : GetPlanDiffRequest}
    (h : VersionsSurvive (store.pruneStaleBootData recordedBefore) request) :
    getPlanDiff (store.pruneStaleBootData recordedBefore) request = getPlanDiff store request := by
  have hbefore : ∀ {key : WorkflowId × Int} {row : HistoryRow RuntimeApiResponse},
      (store.pruneStaleBootData recordedBefore).planVersions.get? key = some row →
        store.planVersions.get? key = some row := by
    intro key row hrow
    rw [KeyedRows.get?_eq_some_iff] at hrow ⊢
    exact ⟨((KeyedRows.mem_deleteWhere _ _ _).mp hrow.1).1, hrow.2⟩
  obtain ⟨fromRow, hfrom⟩ := Option.isSome_iff_exists.mp h.1
  obtain ⟨toRow, hto⟩ := Option.isSome_iff_exists.mp h.2
  rw [getPlanDiff_stored _ request hfrom hto,
    getPlanDiff_stored _ request (hbefore hfrom) (hbefore hto)]

/-- For every store whose counters are exact a prune deletes the stale rows and no others. The
counters stay exact, the records stay as they are, a second prune has nothing to delete, and the
diffs between the versions that are left stay the same. -/
theorem prune_exact (store : Store) (recordedBefore : Int) (h : CountersExact store) :
    PrunesStale store recordedBefore (store.pruneStaleBootData recordedBefore) ∧
      CountersExact (store.pruneStaleBootData recordedBefore) ∧
      (store.pruneStaleBootData recordedBefore).records = store.records ∧
      (store.pruneStaleBootData recordedBefore).pruneStaleBootData recordedBefore =
        store.pruneStaleBootData recordedBefore ∧
      pruneResult (store.pruneStaleBootData recordedBefore) recordedBefore = {} ∧
      ∀ request, VersionsSurvive (store.pruneStaleBootData recordedBefore) request →
        getPlanDiff (store.pruneStaleBootData recordedBefore) request = getPlanDiff store request :=
  ⟨prunesStale recordedBefore h, countersExact_prune recordedBefore h, rfl,
    pruneStaleBootData_twice recordedBefore store, pruneResult_prune recordedBefore store,
    fun _ hsurvive => getPlanDiff_prune recordedBefore hsurvive⟩

end Prune

def twoBoots : Store :=
  let stored : WorkflowRecord :=
    { config := { id := "w" }, summary := { workflowId := "w", latestPlanVersion := 2 } }
  let earlier := ((Store.initial "old").upsertWorkflow stored).writePlanVersion "w"
    { version := 1, recordedAtUnixMs := 100 }
  { earlier.writePlanVersion "w"
    { version := 2, recordedAtUnixMs := 200 } with currentBootId := "new" }

theorem twoBoots_pruned :
    (twoBoots.pruneStaleBootData 1000).planVersions.rows.map HistoryRow.sequence = [2] ∧
      CountersExact (twoBoots.pruneStaleBootData 1000) := by
  refine ⟨by decide, (prune_exact twoBoots 1000 ?_).2.1⟩
  exact ⟨⟨by decide, by decide⟩, ⟨by decide, by decide⟩, ⟨by decide, by decide⟩⟩

end TaskOrchestrator.ControlPlane
