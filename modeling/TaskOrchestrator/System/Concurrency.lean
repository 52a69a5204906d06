import TaskOrchestrator.System.SharedState

/-!
# Two calls on one workflow

Nothing is lost when each of two calls writes only on a record that it has read since the
other one's last write; the service itself does nothing to make the interleavings so.
-/

namespace TaskOrchestrator.System

open Protocol Library ControlPlane

set_option autoImplicit false

/-- In an interleaving of two calls on one workflow no update is lost if each call writes only
on a record that it has read since the other call's last write. -/
theorem no_lost_update (env : Environment) (id : WorkflowId) (first second : SharedCall)
    (hfirst : first.workflowId = id) (hsecond : second.workflowId = id) (w t : World)
    (trace : Trace) (a b : Answer) (hlargest : CountersLargest id w)
    (run : Program.Interleaved (handle env) (first.program env) (second.program env) w trace a b t)
    (hisolated : (ledger env id).Isolated trace) : NoLostUpdate id first second trace a b t := by
  obtain ⟨hwrites, hfirstEvents, hsecondEvents⟩ :=
    journal_interleaved (hsecond.trans hfirst.symm) run
  have hops : ∀ entry ∈ trace.map Prod.snd, writesOnly id entry.1 := by
    intro entry hentry
    obtain ⟨e, he, rfl⟩ := List.mem_map.mp hentry
    exact hfirst ▸ hwrites e he
  have hgrown := LedgerView.interleaved_grown run (first.program_disciplined env id .unread trivial)
    (second.program_disciplined env id .unread trivial) hisolated
  have hgrown' : (ledger env id).Grown (storedCounters id w) ((trace.map Prod.snd).map Prod.fst)
      (storedCounters id t) := by
    rw [List.map_map]
    exact hgrown
  have hdistinct := fun table => keys_nodup_of_grown hops hgrown' table
  exact
    { firstEvents := hfirstEvents
      secondEvents := hsecondEvents
      distinct := hdistinct
      stored := fun table row hrow => history_written run.chain hops (hdistinct table) hrow
      counters := countersLargest_of_grown run.chain hops hgrown' hlargest
      firstState := stateKept hfirst hsecond run hisolated
      secondState := (stateKept hsecond hfirst run.swap
        ((ledger env id).isolatedFrom_swap hisolated)).of_swap }

def oneWorkflow : World :=
  runWorld openEnvironment [.request (.submit { config := { id := "w" } })] newDatabase

def auditCall : SharedCall := .appendAuditEntry "w" "operator" "note" "detail"

def pauseCall : SharedCall := .pause { workflowId := "w" }

theorem oneWorkflow_countersLargest : CountersLargest "w" oneWorkflow := by
  intro table
  cases table <;> decide

/-- A pause and an audit entry, one after the other. -/
theorem no_lost_update_in_turn : ∃ trace a b t,
    Program.Interleaved (handle openEnvironment) (pauseCall.program openEnvironment)
      (auditCall.program openEnvironment) oneWorkflow trace a b t ∧
    NoLostUpdate "w" pauseCall auditCall trace a b t := by
  have hfits : (Program.interleave (handle openEnvironment)
      [true, true, true, true, true, true, true, false, false, false, false, false]
      (pauseCall.program openEnvironment) (auditCall.program openEnvironment) oneWorkflow).any
      (fun r => (ledger openEnvironment "w").IsolatedFrom false false r.1) = true := by
    decide
  obtain ⟨trace, a, b, t, run, hisolated⟩ := Program.exists_interleaved _ hfits
  exact ⟨trace, a, b, t, run,
    no_lost_update openEnvironment "w" pauseCall auditCall rfl rfl oneWorkflow t
    trace a b oneWorkflow_countersLargest run hisolated⟩

/-- Two audit entries whose calls both read the record before either writes it: the second
entry is written over the first. -/
theorem audit_entry_lost : ∃ trace a b t, CountersLargest "w" oneWorkflow ∧
    Program.Interleaved (handle openEnvironment) (auditCall.program openEnvironment)
      (auditCall.program openEnvironment) oneWorkflow trace a b t ∧
    ¬ NoLostUpdate "w" auditCall auditCall trace a b t := by
  have hfits : (Program.interleave (handle openEnvironment)
      [true, false, true, true, true, true, false, false, false, false]
      (auditCall.program openEnvironment) (auditCall.program openEnvironment) oneWorkflow).any
      (fun r => ¬ ((writtenRows .auditEntries (r.1.map Prod.snd)).map HistoryRow.key).Nodup) =
        true := by
    decide
  obtain ⟨trace, a, b, t, run, hlost⟩ := Program.exists_interleaved _ hfits
  exact ⟨trace, a, b, t, oneWorkflow_countersLargest, run, fun h =>
    hlost (h.distinct .auditEntries)⟩

end TaskOrchestrator.System
