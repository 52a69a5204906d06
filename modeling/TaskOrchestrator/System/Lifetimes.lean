import TaskOrchestrator.Library.Segments
import TaskOrchestrator.System.History

/-!
# Lifetimes of a process

A deployment is a sequence of lifetimes of the process on one database file. In a lifetime any
number of requests are served at the same time; it ends after any of their calls. Whatever the
interleaving and wherever a lifetime ends, the rows of a workflow are numbered without gaps.
-/

namespace TaskOrchestrator.System

open Protocol Library ControlPlane
open Program (Pool Obeys)

set_option autoImplicit false

/-- The calls of a deployment so far and the state they left, with only some kinds of requests
served. A request that has not arrived is a program that has not made a call. -/
inductive Lifetimes (env : Environment) (served : Request → Prop) (w : World) :
    List (Op × World) → World → Prop where
  | start : Lifetimes env served w [] w
  | live {log : List (Op × World)} {u t : World} {ι : Type} [DecidableEq ι] (requests : ι → Request)
      {trace : List (ι × Op × World)} {left : ι → Service Answer} :
      (∀ i, served (requests i)) → Lifetimes env served w log u →
      Pool (handle env) (fun i => (requests i).program env) u trace left t →
      Lifetimes env served w (log ++ trace.map Prod.snd) t
  | restart {log : List (Op × World)} {u : World} (bootId : String) :
      Lifetimes env served w log u → Lifetimes env served w log (u.restart bootId)

/-- What one call of a request keeps, with what the request knows from its own calls, and what a
restart keeps, holds all along a deployment. -/
theorem Lifetimes.invariant {env : Environment} {served : Request → Prop} {w t : World}
    {log : List (Op × World)} (run : Lifetimes env served w log t) {κ : Type} {N : Monitor calls κ}
    (Inv : List (Op × World) → World → Prop) (Know : List (Op × World) → κ → Prop)
    (step : ∀ log s k op, Inv log s → Know log k → N.allows k op →
      N.replies op (handle env op s).1 ∧
      Inv (log ++ [(op, (handle env op s).2)]) (handle env op s).2 ∧
      Know (log ++ [(op, (handle env op s).2)]) (N.next k op (handle env op s).1))
    (lasts : ∀ log entry k, Know log k → Know (log ++ [entry]) k)
    (hrequests : ∀ request, served request →
      ∃ k, (∀ log, Know log k) ∧ Obeys N (fun _ _ => True) k (request.program env))
    (hrestart : ∀ log u bootId, Inv log u → Inv log (u.restart bootId)) (hstart : Inv [] w) :
    Inv log t := by
  induction run with
  | start => exact hstart
  | live requests hserved _ hpool ih =>
    exact hpool.invariant Inv Know step lasts (fun i => hrequests _ (hserved i)) _ ih
  | restart bootId _ ih => exact hrestart _ _ bootId ih

section Numbers

variable {env : Environment} {served : Request → Prop} {w t : World} {log : List (Op × World)}

/-- Every request numbers the rows of a workflow from a copy of its counters. A submission that does
not ask to replace the workflow starts again from zero. -/
theorem Request.program_numbers (request : Request) (id : WorkflowId) :
    ∃ k : Copy Table, k.Within (fun _ => 0) ∧
      (request.program env).Obeys (ledger env id).monitor (fun _ k' => k'.Settled) k := by
  by_cases h : request.Replacing
  · exact ⟨.unread, trivial, Request.program_disciplined h .unread trivial⟩
  · cases request with
    | submit request =>
      have hnew : ∀ k : Copy Table, k.Settled →
          (request.config.id = id → k = .held (fun _ => 0) true) →
          ((Request.submit request).program env).Obeys (ledger env id).monitor
            (fun _ k' => k'.Settled) k := by
        intro k hk hcopy
        apply (streamSubmitWorkflow_obeys hk (submitAccepted_new h hk hcopy)).bind
        intro events k' hk'
        exact Program.obeys_pure hk'
      exact ⟨.held (fun _ => 0) true, fun _ => ⟨Int.le_refl 0, Int.le_refl 0⟩,
        hnew _ rfl fun _ => rfl⟩
    | _ => exact absurd trivial h

theorem Lifetimes.segments {bootId : String} {clock : Nat → Int}
    (run : Lifetimes env served (.initial bootId clock) log t) (id : WorkflowId) :
    ∃ top, (ledger env id).Segments (log.map Prod.fst) (storedCounters id t) top := by
  induction run with
  | start => exact ⟨fun _ => 0, .nil⟩
  | live requests _ _ hpool ih =>
    obtain ⟨top, htop⟩ := ih
    exact LedgerView.pool_segments hpool (fun i => (requests i).program_numbers id) htop
  | restart bootId _ ih => exact ih

end Numbers

section Stored

variable {env : Environment} {served : Request → Prop} {w t : World} {log : List (Op × World)}
variable {table : Table}
  {key : WorkflowId × Int}

def historyKeys (store : Store) (table : Table) : List (WorkflowId × Int) :=
  (history store table).map HistoryRow.key

def NeverPrunes (log : List (Op × World)) : Prop :=
  ∀ entry ∈ log, ∀ recordedBefore, entry.1 ≠ .pruneStaleBootData recordedBefore

theorem mem_keys_put {π : Type} (f : π → HistoryPayload)
    (rows : KeyedRows (HistoryRow.key (π := π))) (written : HistoryRow π) (key : WorkflowId × Int) :
    key ∈ ((rows.put written).rows.map (HistoryRow.tag f)).map HistoryRow.key ↔
      key ∈ (rows.rows.map (HistoryRow.tag f)).map HistoryRow.key ∨
        ∃ row, some (HistoryRow.tag f written) = some row ∧ row.key = key := by
  have htag : ∀ row : HistoryRow π, (HistoryRow.tag f row).key = row.key := fun _ => rfl
  simp only [List.mem_map, KeyedRows.mem_put, Option.some.injEq, exists_eq_left', htag]
  constructor
  · rintro ⟨_, ⟨row, hrow | ⟨hrow, -⟩, rfl⟩, rfl⟩
    · exact Or.inr (by rw [hrow, htag])
    · exact Or.inl ⟨_, ⟨row, hrow, rfl⟩, rfl⟩
  · rintro (⟨_, ⟨row, hrow, rfl⟩, rfl⟩ | hkey)
    · by_cases hsame : row.key = written.key
      · exact ⟨_, ⟨written, Or.inl rfl, rfl⟩, by rw [htag, htag, hsame]⟩
      · exact ⟨_, ⟨row, Or.inr ⟨hrow, hsame⟩, rfl⟩, rfl⟩
    · exact ⟨_, ⟨written, Or.inl rfl, rfl⟩, hkey⟩

/-- A call adds the key of the row that it writes, and takes none away unless it prunes. -/
theorem historyKeys_handle {op : Op} (hop : ∀ before, op ≠ .pruneStaleBootData before)
    (table : Table) (key : WorkflowId × Int) :
    key ∈ historyKeys (handle env op w).2.store table ↔ key ∈ historyKeys w.store table ∨
      ∃ row, writtenRow table (handle env op w).2.store.currentBootId op = some row ∧
      row.key = key := by
  have hquiet : writtenRow table (handle env op w).2.store.currentBootId op = none →
      historyKeys (handle env op w).2.store table = historyKeys w.store table →
      (key ∈ historyKeys (handle env op w).2.store table ↔ key ∈ historyKeys w.store table ∨
        ∃ row, writtenRow table (handle env op w).2.store.currentBootId op = some row ∧
          row.key = key) := by
    intro hnone hsame
    rw [hnone, hsame]
    simp
  cases op with
  | writeEvent id e =>
    cases table with
    | events => exact mem_keys_put _ _ _ key
    | planVersions | auditEntries => exact hquiet rfl rfl
  | writePlanVersion id v =>
    cases table with
    | planVersions => exact mem_keys_put _ _ _ key
    | events | auditEntries => exact hquiet rfl rfl
  | writeAuditEntry id a =>
    cases table with
    | auditEntries => exact mem_keys_put _ _ _ key
    | events | planVersions => exact hquiet rfl rfl
  | pruneStaleBootData before => exact absurd rfl (hop before)
  | _ => cases table <;> exact hquiet rfl rfl

theorem historyKeys_chain (hchain : Program.Chain (handle env) w log t) (hprune : NeverPrunes log) :
    key ∈ historyKeys t.store table ↔
      key ∈ historyKeys w.store table ∨ key ∈ (writtenRows table log).map HistoryRow.key := by
  induction log generalizing w with
  | nil =>
    obtain rfl : t = w := hchain
    simp [writtenRows]
  | cons entry rest ih =>
    obtain ⟨op, w'⟩ := entry
    obtain ⟨rfl, hrest⟩ := hchain
    rw [ih hrest fun e he => hprune e (List.mem_cons_of_mem _ he)]
    rw [historyKeys_handle (hprune _ List.mem_cons_self), or_assoc]
    apply or_congr Iff.rfl
    cases hrow : writtenRow table (handle env op w).2.store.currentBootId op with
    | none => simp [writtenRows, hrow]
    | some row => simp [writtenRows, hrow, eq_comm]

theorem Lifetimes.historyKeys {bootId : String} {clock : Nat → Int}
    (run : Lifetimes env served (.initial bootId clock) log t) (hprune : NeverPrunes log) :
    key ∈ historyKeys t.store table ↔ key ∈ (writtenRows table log).map HistoryRow.key := by
  induction run with
  | start => cases table <;> exact Iff.rfl
  | @live log u t ι _ requests trace left _ _ hpool ih =>
    have hbefore := ih fun entry hentry => hprune entry (List.mem_append_left _ hentry)
    rw [historyKeys_chain hpool.chain fun entry hentry =>
      hprune entry (List.mem_append_right _ hentry), hbefore, writtenRows_append, List.map_append,
        List.mem_append]
  | restart bootId _ ih =>
    have hsame := ih hprune
    cases table <;> exact hsame

end Stored

def numbersWritten (id : WorkflowId) (table : Table) (log : List (Op × World)) : List Int :=
  ((writtenRows table log).filter fun row => row.workflowId = id).map HistoryRow.sequence

/-- No number is left out, whatever is served at the same time and wherever the process stops: the
numbers of a workflow's rows are those from one up to some number, its counter is none that was not
reached, and without pruning just these rows are stored. -/
theorem numbers_gapless (env : Environment) (served : Request → Prop) (bootId : String)
    (clock : Nat → Int) (log : List (Op × World)) (w : World)
    (run : Lifetimes env served (.initial bootId clock) log w) (id : WorkflowId) (table : Table) :
    ∃ top : Int, (∀ n, n ∈ numbersWritten id table log ↔ 1 ≤ n ∧ n ≤ top) ∧
      0 ≤ storedCounters id w table ∧ storedCounters id w table ≤ top ∧
      (NeverPrunes log → ∀ n, (id, n) ∈ historyKeys w.store table ↔ 1 ≤ n ∧ n ≤ top) := by
  obtain ⟨top, htop⟩ := run.segments id
  have hwritten : ∀ n, n ∈ numbersWritten id table log ↔ 1 ≤ n ∧ n ≤ top table := by
    intro n
    have hmem := htop.mem_iff table n
    rw [numbers_eq] at hmem
    exact hmem
  refine ⟨top table, hwritten, htop.header_nonneg table, htop.header_le table, fun hprune n => ?_⟩
  rw [run.historyKeys hprune, ← hwritten n]
  simp only [numbersWritten, List.mem_map, List.mem_filter, decide_eq_true_eq]
  constructor
  · rintro ⟨row, hrow, hkey⟩
    obtain ⟨hid, hn⟩ := Prod.mk.inj hkey
    exact ⟨row, ⟨hrow, hid⟩, hn⟩
  · rintro ⟨row, ⟨hrow, rfl⟩, rfl⟩
    exact ⟨row, hrow, rfl⟩

/-- The same workflow is submitted twice at the same time, and then the process stops: every number
is used twice, and none is left out. -/
theorem numbers_gapless_reused :
    ∃ log w, Lifetimes openEnvironment (fun _ => True) newDatabase log w ∧
    numbersWritten "w" .events log = [1, 1, 2, 2, 3, 3] ∧ ∃ top : Int,
      (∀ n, n ∈ numbersWritten "w" .events log ↔ 1 ≤ n ∧ n ≤ top) ∧
      0 ≤ storedCounters "w" w .events ∧
      storedCounters "w" w .events ≤ top ∧
      (NeverPrunes log → ∀ n, ("w", n) ∈ historyKeys w.store .events ↔ 1 ≤ n ∧ n ≤ top) := by
  let requests := fun _ : Bool => Request.submit { config := { id := "w" } }
  have hfits : (Program.runPool (handle openEnvironment) (List.replicate 18 [true, false]).flatten
      (fun i => (requests i).program openEnvironment) newDatabase).any
      (fun r => numbersWritten "w" .events (r.1.map Prod.snd) = [1, 1, 2, 2, 3, 3]) = true := by
    decide
  obtain ⟨trace, left, t, hpool, hnumbers⟩ := Program.exists_pool hfits
  have run : Lifetimes openEnvironment (fun _ => True) newDatabase (trace.map Prod.snd)
      (t.restart "next") :=
    .restart "next" (.live requests (fun _ => trivial) .start hpool)
  exact ⟨_, _, run, hnumbers,
    numbers_gapless openEnvironment _ "boot" (fun reading => reading) _ _ run "w" .events⟩

end TaskOrchestrator.System
