import TaskOrchestrator.System.Ledger
import TaskOrchestrator.System.Effects

/-!
# Append-only history

The rows that a run leaves in the three history tables are rows that its calls wrote, and
the numbers that the calls write for one workflow grow along the run, as long as no
submission rebuilds the record of a stored workflow from nothing.
-/

namespace TaskOrchestrator.System

open Protocol Library ControlPlane

set_option autoImplicit false

theorem mem_map_put {ρ κ τ : Type} [DecidableEq κ] {key : ρ → κ} {t : KeyedRows key} {r : ρ}
    {f : ρ → τ} {y : τ} (h : y ∈ (t.put r).rows.map f) :
    y ∈ t.rows.map f ∨ some (f r) = some y := by
  obtain ⟨x, hx, rfl⟩ := List.mem_map.mp h
  rcases (KeyedRows.mem_put t r x).mp hx with rfl | ⟨hold, -⟩
  · exact Or.inr rfl
  · exact Or.inl (List.mem_map.mpr ⟨x, hold, rfl⟩)

theorem mem_map_deleteWhere {ρ κ τ : Type} {key : ρ → κ} {t : KeyedRows key} {p : ρ → Bool}
    {f : ρ → τ} {y : τ} (h : y ∈ (t.deleteWhere p).rows.map f) : y ∈ t.rows.map f := by
  obtain ⟨x, hx, rfl⟩ := List.mem_map.mp h
  exact List.mem_map.mpr ⟨x, ((KeyedRows.mem_deleteWhere t p x).mp hx).1, rfl⟩

theorem history_handle {env : Environment} {op : Op} {w : World} {table : Table}
    {row : HistoryRow HistoryPayload} (h : row ∈ history (handle env op w).2.store table) :
    row ∈ history w.store table ∨ writtenRow table (handle env op w).2.store.currentBootId op =
      some row := by
  cases op with
  | writeEvent id e =>
    cases table with
    | events => exact mem_map_put h
    | planVersions | auditEntries => exact Or.inl h
  | writePlanVersion id v =>
    cases table with
    | planVersions => exact mem_map_put h
    | events | auditEntries => exact Or.inl h
  | writeAuditEntry id a =>
    cases table with
    | auditEntries => exact mem_map_put h
    | events | planVersions => exact Or.inl h
  | pruneStaleBootData before =>
    cases table <;> exact Or.inl (mem_map_deleteWhere h)
  | _ => cases table <;> exact Or.inl h

/-- Along a chain of calls every state has only rows of the first state and rows written. -/
theorem history_chain {env : Environment} {w t : World} {log : List (Op × World)}
    (h : Program.Chain (handle env) w log t) {v : World} (hv : v ∈ w :: log.map Prod.snd ∨ v = t)
    {table : Table} {row : HistoryRow HistoryPayload} (hrow : row ∈ history v.store table) :
    row ∈ history w.store table ∨ row ∈ writtenRows table log := by
  induction log generalizing w with
  | nil =>
    obtain rfl : t = w := h
    rcases hv with hv | rfl
    · obtain rfl := List.mem_singleton.mp hv
      exact Or.inl hrow
    · exact Or.inl hrow
  | cons entry rest ih =>
    obtain ⟨op, w'⟩ := entry
    obtain ⟨rfl, hrest⟩ := h
    have hcases : v = w ∨ (v ∈ (handle env op w).2 :: rest.map Prod.snd ∨ v = t) := by
      rcases hv with hv | hv
      · rcases List.mem_cons.mp hv with rfl | hv
        · exact Or.inl rfl
        · exact Or.inr (Or.inl hv)
      · exact Or.inr (Or.inr hv)
    rcases hcases with rfl | hv
    · exact Or.inl hrow
    · unfold writtenRows
      rw [List.filterMap_cons]
      rcases ih hrest hv with hold | hwritten
      · rcases history_handle hold with hold | hnew
        · exact Or.inl hold
        · right
          simp [hnew]
      · right
        split
        · exact hwritten
        · exact List.mem_cons_of_mem _ hwritten

theorem Step.history_next {env : Environment} {step : Step} {w : World} {table : Table}
    {row : HistoryRow HistoryPayload} (hrow : row ∈ history (step.next env w).store table) :
    row ∈ history w.store table ∨ row ∈ writtenRows table (step.log env w) := by
  cases step with
  | request r => exact history_chain (Program.chain_steps _ _ _) (Or.inr rfl) hrow
  | restart bootId =>
    left
    cases table <;> exact hrow
  | crash r n bootId =>
    refine history_chain (Program.chain_cut _ n _ _) (Or.inr rfl) ?_
    cases table <;> exact hrow

theorem Step.history_log {env : Environment} {step : Step} {w v : World} {table : Table}
    {row : HistoryRow HistoryPayload} (hv : v ∈ w :: (step.log env w).map Prod.snd)
    (hrow : row ∈ history v.store table) :
    row ∈ history w.store table ∨ row ∈ writtenRows table (step.log env w) := by
  cases step with
  | request r => exact history_chain (Program.chain_steps _ _ _) (Or.inl hv) hrow
  | restart bootId =>
    obtain rfl := List.mem_singleton.mp hv
    exact Or.inl hrow
  | crash r n bootId => exact history_chain (Program.chain_cut _ n _ _) (Or.inl hv) hrow

theorem writtenRows_append (table : Table) (xs ys : List (Op × World)) :
    writtenRows table (xs ++ ys) = writtenRows table xs ++ writtenRows table ys :=
  List.filterMap_append

/-- Every row of a run was there at the start or was written by one of its calls. -/
theorem history_visited {env : Environment} {steps : List Step} {w v : World}
    (hv : v ∈ visited env steps w) {table : Table} {row : HistoryRow HistoryPayload}
    (hrow : row ∈ history v.store table) :
    row ∈ history w.store table ∨ row ∈ writtenRows table (runLog env steps w) := by
  induction steps generalizing w with
  | nil =>
    obtain rfl := List.mem_singleton.mp hv
    exact Or.inl hrow
  | cons step rest ih =>
    rw [runLog, writtenRows_append, List.mem_append]
    rcases List.mem_append.mp hv with hv | hv
    · rcases step.history_log hv hrow with hold | hnew
      · exact Or.inl hold
      · exact Or.inr (Or.inl hnew)
    · rcases ih hv with hold | hnew
      · rcases step.history_next hold with hold | hnew
        · exact Or.inl hold
        · exact Or.inr (Or.inl hnew)
      · exact Or.inr (Or.inr hnew)

theorem appended_eq (env : Environment) (id : WorkflowId) (table : Table) (bootId : String)
    (op : Op) :
    (ledger env id).appended table op =
      ((writtenRow table bootId op).filter fun row => row.workflowId = id).map
        HistoryRow.sequence := by
  cases op with
  | writeEvent id' e => cases table <;> by_cases h : id' = id <;>
      simp [LedgerView.appended, ledger, ledgerAct, writtenRow, HistoryRow.tag, Store.eventRow, h]
  | writePlanVersion id' v => cases table <;> by_cases h : id' = id <;>
      simp [LedgerView.appended, ledger, ledgerAct, writtenRow, HistoryRow.tag,
        Store.planVersionRow, h]
  | writeAuditEntry id' a => cases table <;> by_cases h : id' = id <;>
      simp [LedgerView.appended, ledger, ledgerAct, writtenRow, HistoryRow.tag, Store.auditRow, h]
  | getWorkflow id' => by_cases h : id' = id <;>
      simp [LedgerView.appended, ledger, ledgerAct, writtenRow, h]
  | upsertWorkflow r => by_cases h : r.summary.workflowId = id <;>
      simp [LedgerView.appended, ledger, ledgerAct, writtenRow, h]
  | _ => rfl

theorem numbers_eq (env : Environment) (id : WorkflowId) (table : Table) (log : List (Op × World)) :
    (ledger env id).numbers table (log.map Prod.fst) =
      ((writtenRows table log).filter fun row => row.workflowId = id).map HistoryRow.sequence := by
  induction log with
  | nil => rfl
  | cons entry rest ih =>
    obtain ⟨op, w⟩ := entry
    have happended := appended_eq env id table w.store.currentBootId op
    simp only [LedgerView.numbers, writtenRows, List.map_cons, List.filterMap_cons] at ih ⊢
    cases hrow : writtenRow table w.store.currentBootId op with
    | none =>
      rw [hrow] at happended
      simp only [happended, Option.filter_none, Option.map_none]
      exact ih
    | some row =>
      rw [hrow] at happended
      by_cases hid : row.workflowId = id <;> simp [happended, hid, Option.filter, ih]

/-- Either the key of the request is in the idempotency table, and the request is answered
from there, or the request asks to replace, or there is no record to be rebuilt. -/
def ReplacesStored (w : World) (request : SubmitWorkflowRequest) : Prop :=
  KeyHit w (request.idempotencyKey.getD "") ∨ request.replaceExisting = some true ∨
    w.store.getWorkflow request.config.id = none

/-- The condition on a step under which its numbers continue those of the store. -/
def KeepsNumbers (env : Environment) (w : World) : Step → Prop
  | .request (.submit request) => ReplacesStored w request
  | .request _ => True
  | .restart _ => True
  | .crash request n _ => request.Replacing ∧
      ∀ id, (ledger env id).pending (((request.program env).cut (handle env) n w).1.map Prod.fst) =
        false

theorem Step.grown_new {env : Environment} {request : SubmitWorkflowRequest} {w : World}
    (hnew : w.store.getWorkflow request.config.id = none) (id : WorkflowId) {floor : Table → Int}
    {log : List (Op × World)}
    (hlog : (ledger env id).Grown floor (log.map Prod.fst) (storedCounters id w)) :
    (ledger env id).Grown floor ((log ++ (Step.request (.submit request)).log env w).map Prod.fst)
      (storedCounters id ((Step.request (.submit request)).next env w)) := by
  by_cases hreplace : request.replaceExisting = some true
  · exact LedgerView.run_grown (k := .unread)
      (Request.program_disciplined (show (Request.submit request).Replacing from hreplace) .unread
        trivial) rfl hlog
  have hobeys : ∀ k : Copy Table, k.Settled →
      (request.config.id = id → k = .held (fun _ => 0) true) →
      ((Request.submit request).program env).Obeys (ledger env id).monitor
        (fun _ k' => k'.Settled) k := by
    intro k hk hcopy
    refine (streamSubmitWorkflow_obeys hk (submitAccepted_new hreplace hk hcopy)).bind ?_
    exact fun _ _ hsettled => Program.obeys_pure hsettled
  by_cases hid : request.config.id = id
  · have hcounters : storedCounters id w = fun _ => 0 := by simp [storedCounters, ← hid, hnew]
    exact LedgerView.run_grown (hobeys (.held (fun _ => 0) true) rfl fun _ => rfl) hcounters.symm
      hlog
  · exact LedgerView.run_grown (hobeys .unread trivial fun h => absurd h hid) rfl hlog

theorem Step.grown {env : Environment} {step : Step} {w : World} (hkeeps : KeepsNumbers env w step)
    (id : WorkflowId) {floor : Table → Int} {log : List (Op × World)}
    (hlog : (ledger env id).Grown floor (log.map Prod.fst) (storedCounters id w)) :
    (ledger env id).Grown floor ((log ++ step.log env w).map Prod.fst)
      (storedCounters id (step.next env w)) := by
  have hreplacing : ∀ request : Request, request.Replacing →
      (ledger env id).Grown floor ((log ++ (Step.request request).log env w).map Prod.fst)
        (storedCounters id ((Step.request request).next env w)) := by
    intro request h
    exact LedgerView.run_grown (k := .unread)
      (Request.program_disciplined h .unread trivial) rfl hlog
  cases step with
  | restart bootId =>
    rw [Step.log, List.append_nil]
    exact hlog
  | crash request n bootId =>
    obtain ⟨h, hpending⟩ := hkeeps
    exact LedgerView.cut_grown (k := .unread) (Request.program_disciplined h .unread trivial)
      trivial rfl hlog n (hpending id)
  | request request =>
    cases request with
    | submit request =>
      rcases hkeeps with hhit | hreplace | hnew
      · obtain ⟨hworld, hsteps⟩ := streamSubmitWorkflow_hit env request w hhit
        have hnext : (Step.request (.submit request)).next env w = w := by
          simp [Step.next, serve, Request.program, hworld]
        rw [hnext]
        simp only [Step.log, Request.program, Program.steps_map, hsteps, List.map_append]
        exact hlog.snoc_other (by simp [ledger, ledgerAct])
      · exact hreplacing _ hreplace
      · exact Step.grown_new hnew id hlog
    | _ => exact hreplacing _ trivial

theorem run_grown {env : Environment} {steps : List Step} {w : World}
    (hmeets : Meets env (KeepsNumbers env) steps w) (id : WorkflowId) {floor : Table → Int}
    (log : List (Op × World))
    (hlog : (ledger env id).Grown floor (log.map Prod.fst) (storedCounters id w)) :
    (ledger env id).Grown floor ((log ++ runLog env steps w).map Prod.fst)
      (storedCounters id (runWorld env steps w)) := by
  induction steps generalizing w log with
  | nil => simpa [runLog, runWorld] using hlog
  | cons step rest ih =>
    have hrest := ih hmeets.2 _ (step.grown hmeets.1 id hlog)
    rwa [List.append_assoc] at hrest

/-- Along a run no row is replaced by a different one under the same number, and every row
written gets a greater number than all rows written before it for its workflow. -/
def AppendOnly (env : Environment) (steps : List Step) (w : World) : Prop :=
  ∀ table,
    (writtenRows table (runLog env steps w)).Pairwise
      (fun a b => a.workflowId = b.workflowId → a.sequence < b.sequence) ∧
    ∀ u ∈ visited env steps w, ∀ v ∈ visited env steps w,
      ∀ x ∈ history u.store table, ∀ y ∈ history v.store table, x.key = y.key → x = y

theorem pairwise_of_numbers {env : Environment} {table : Table} {log : List (Op × World)}
    (h : ∀ id, ((ledger env id).numbers table (log.map Prod.fst)).Pairwise (· < ·)) :
    (writtenRows table log).Pairwise
      (fun a b => a.workflowId = b.workflowId → a.sequence < b.sequence) := by
  rw [List.pairwise_iff_forall_sublist]
  intro a b hsub hid
  have hnumbers := h a.workflowId
  rw [numbers_eq, List.pairwise_map] at hnumbers
  have hfiltered : [a, b].Sublist
      ((writtenRows table log).filter fun row => row.workflowId = a.workflowId) := by
    have := hsub.filter fun row => decide (row.workflowId = a.workflowId)
    simpa [hid] using this
  exact List.pairwise_iff_forall_sublist.mp hnumbers hfiltered

theorem eq_of_key_eq {rows : List (HistoryRow HistoryPayload)}
    (h : rows.Pairwise fun a b => a.workflowId = b.workflowId → a.sequence < b.sequence)
    {x y : HistoryRow HistoryPayload} (hx : x ∈ rows) (hy : y ∈ rows)
    (hkey : x.key = y.key) : x = y := by
  have hnodup : (rows.map HistoryRow.key).Nodup := by
    refine List.pairwise_map.mpr (h.imp ?_)
    intro a b hlt hab
    obtain ⟨hid, hsequence⟩ := Prod.mk.inj hab
    exact absurd (hlt hid) (by omega)
  exact List.inj_on_of_nodup_map hnodup hx hy hkey

theorem appendOnly_of_keepsNumbers {env : Environment} {bootId : String} {clock : Nat → Int}
    {steps : List Step} (hmeets : Meets env (KeepsNumbers env) steps (.initial bootId clock)) :
    AppendOnly env steps (.initial bootId clock) := by
  intro table
  have hgrown : ∀ id, (ledger env id).Grown (fun _ => 0)
      ((runLog env steps (.initial bootId clock)).map Prod.fst)
      (storedCounters id (runWorld env steps (.initial bootId clock))) := by
    intro id
    exact run_grown hmeets id [] (.nil _)
  have hpairwise := pairwise_of_numbers fun id => (hgrown id).increasing table
  refine ⟨hpairwise, fun u hu v hv x hx y hy hkey => ?_⟩
  have hwritten : ∀ u ∈ visited env steps (.initial bootId clock), ∀ x ∈ history u.store table,
      x ∈ writtenRows table (runLog env steps (.initial bootId clock)) := by
    intro u hu x hx
    rcases history_visited hu hx with hstart | hwritten
    · cases table <;> exact absurd hstart List.not_mem_nil
    · exact hwritten
  exact eq_of_key_eq hpairwise (hwritten u hu x hx) (hwritten v hv y hy) hkey

/-- The steps of a sequential run: a submission replaces the record it finds, and no request
is stopped half-way. -/
def SubmitsReplace (w : World) : Step → Prop
  | .request (.submit request) => ReplacesStored w request
  | .crash _ _ _ => False
  | _ => True

theorem SubmitsReplace.keepsNumbers (env : Environment) {w : World} {step : Step}
    (h : SubmitsReplace w step) : KeepsNumbers env w step := by
  cases step with
  | request request => cases request <;> exact h
  | restart bootId => trivial
  | crash request n bootId => exact absurd h not_false

/-- History is append-only along every sequential run from a new database in which every
submission of a stored workflow asks to replace it or is answered from the idempotency table. -/
theorem history_append_only (env : Environment) (bootId : String) (clock : Nat → Int)
    (steps : List Step) (hmeets : Meets env SubmitsReplace steps (.initial bootId clock)) :
    AppendOnly env steps (.initial bootId clock) :=
  appendOnly_of_keepsNumbers (hmeets.mono fun _ _ h => h.keepsNumbers env)

def submitRun (replaceExisting : Option Bool) : List Step :=
  [.request (.submit { config := { id := "w" } }),
    .request (.submit { config := { id := "w" }, replaceExisting := replaceExisting })]

theorem history_append_only_replacing :
    Meets openEnvironment SubmitsReplace (submitRun (some true)) newDatabase ∧
      AppendOnly openEnvironment (submitRun (some true)) newDatabase := by
  have hmeets : Meets openEnvironment SubmitsReplace (submitRun (some true)) newDatabase :=
    ⟨Or.inr (Or.inr rfl), Or.inr (Or.inl rfl), trivial⟩
  exact ⟨hmeets, history_append_only openEnvironment "boot" (fun reading => reading) _ hmeets⟩

/-- The second submission is rejected by the runtime, and its event is written over the first
event of the workflow. -/
theorem submission_overwrites_history :
    ¬ AppendOnly openEnvironment (submitRun (some false)) newDatabase := by
  intro h
  exact absurd (h .events).1 (by decide)

end TaskOrchestrator.System
