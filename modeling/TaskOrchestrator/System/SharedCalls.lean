import TaskOrchestrator.System.History

/-!
# Calls on one workflow

Two calls run at the same time on one stored workflow, in any interleaving of their atomic
calls. A journal follows what each party wrote; rows under different numbers all stay.
-/

namespace TaskOrchestrator.System

open Protocol Library ControlPlane
open Program (Stable obeys_stable)

set_option autoImplicit false

inductive SharedCall where
  /-- `stream_submit_workflow` with `replace_existing` set. -/
  | submit (config : WorkflowConfig) (auth : ClientAuthContext) (idempotencyKey : Option String)
  | reorchestrate (request : ReorchestrateRequest)
  | pause (request : LifecycleRequest)
  | cancel (request : LifecycleRequest)
  | intervene (request : ManualInterventionRequest)
  | appendAuditEntry (workflowId : WorkflowId) (actor action detail : String)

namespace SharedCall

def workflowId : SharedCall → WorkflowId
  | submit config _ _ => config.id
  | reorchestrate request => request.workflowId
  | pause request => request.workflowId
  | cancel request => request.workflowId
  | intervene request => request.workflowId
  | appendAuditEntry workflowId _ _ _ => workflowId

def program (env : Environment) : SharedCall → Service Answer
  | submit config auth key =>
    .events <$> streamSubmitWorkflow env (Operator.replacementRequest config auth key)
  | reorchestrate request => .events <$> streamReorchestrate env request
  | pause request => .action <$> pauseWorkflow request
  | cancel request => .action <$> cancelWorkflow request
  | intervene request => .action <$> applyManualIntervention env request
  | appendAuditEntry id actor action detail =>
    (fun _ => .done) <$> Operator.appendAuditEntry id actor action detail

/-- The call by which a stream hands its request to the runtime. A stream that the control
plane refuses or answers from the idempotency table makes no such call: its one event is
not part of the workflow's history. -/
def handsOver : SharedCall → Op → Bool
  | submit config auth key, op =>
    op = .runtimeSubmitWorkflow (Operator.replacementRequest config auth key)
  | reorchestrate request, op => op = .runtimeReorchestrate request
  | _, _ => false

def target : SharedCall → Option WorkflowLifecycleState
  | pause _ => some .paused
  | cancel _ => some .cancelled
  | _ => none

def setsState : SharedCall → Bool
  | submit _ _ _ => true
  | pause _ => true
  | cancel _ => true
  | _ => false

theorem program_disciplined (env : Environment) (w : WorkflowId) (call : SharedCall) :
    Disciplined env w (call.program env) := by
  cases call with
  | submit config auth key => exact (streamSubmitWorkflow_disciplined rfl).map _
  | reorchestrate request => exact (streamReorchestrate_disciplined request).map _
  | pause request => exact (lifecycleAction_disciplined _ _ _ request).map _
  | cancel request => exact (lifecycleAction_disciplined _ _ _ request).map _
  | intervene request => exact (applyManualIntervention_disciplined request).map _
  | appendAuditEntry id actor action detail =>
    exact (appendAuditEntry_disciplined id actor action detail).map _

end SharedCall

abbrev Trace := List (Bool × Op × World)

def ownLog (party : Bool) (trace : Trace) : List (Op × World) :=
  (trace.filter fun entry => entry.1 = party).map Prod.snd

def eventOf : Op → Option WorkflowEvent
  | .writeEvent _ eventRecord => some eventRecord.event
  | _ => none

/-- The events that the calls write to the event table, in order. -/
def eventsWritten (log : List (Op × World)) : List WorkflowEvent :=
  log.filterMap fun entry => eventOf entry.1

/-- The parties in the order in which they read the record of the workflow. -/
def readers (workflowId : WorkflowId) (trace : Trace) : List Bool :=
  (trace.filter fun entry => entry.2.1 = .getWorkflow workflowId).map Prod.fst

/-- The counters of the record are the largest numbers stored. -/
def CountersLargest (workflowId : WorkflowId) (w : World) : Prop :=
  ∀ table,
    (∀ row ∈ history w.store table, row.workflowId = workflowId →
      row.sequence ≤ storedCounters workflowId w table) ∧
    (storedCounters workflowId w table = 0 ∨
      ∃ row ∈ history w.store table,
        row.workflowId = workflowId ∧ row.sequence = storedCounters workflowId w table)

/-- A pause or a cancel that answered ok, with no state-setting call that began after it, is
the state of the workflow. A call begins with its first read of the record. -/
def StateKept (workflowId : WorkflowId) (party : Bool) (call other : SharedCall) (answer : Answer)
    (trace : Trace) (w : World) : Prop :=
  ∀ state response, call.target = some state → answer = .action response → response.ok = true →
    (other.setsState = true →
      (readers workflowId trace).head? = some (!party) ∨ (!party) ∉ readers workflowId trace) →
    ∃ record, w.store.getWorkflow workflowId = some record ∧ record.summary.state = state

structure NoLostUpdate (workflowId : WorkflowId) (first second : SharedCall) (trace : Trace)
    (firstAnswer secondAnswer : Answer) (w : World) : Prop where
  /-- A stream that reached the runtime has every event it yielded among the rows it wrote. -/
  firstEvents : ∀ stream, firstAnswer = .events stream →
    (ownLog true trace).any (fun entry => first.handsOver entry.1) = true →
    eventsWritten (ownLog true trace) = stream
  secondEvents : ∀ stream, secondAnswer = .events stream →
    (ownLog false trace).any (fun entry => second.handsOver entry.1) = true →
    eventsWritten (ownLog false trace) = stream
  /-- The rows written by both calls have distinct numbers and are all stored. -/
  distinct : ∀ table, ((writtenRows table (trace.map Prod.snd)).map HistoryRow.key).Nodup
  stored : ∀ table, ∀ row ∈ writtenRows table (trace.map Prod.snd), row ∈ history w.store table
  counters : CountersLargest workflowId w
  firstState : StateKept workflowId true first second firstAnswer trace w
  secondState : StateKept workflowId false second first secondAnswer trace w

/-- The call writes history of no other workflow and deletes none. -/
def writesOnly (workflowId : WorkflowId) : Op → Prop
  | .writeEvent id _ => id = workflowId
  | .writePlanVersion id _ => id = workflowId
  | .writeAuditEntry id _ => id = workflowId
  | .pruneStaleBootData _ => False
  | _ => True

/-- Whether a party has handed its request to the runtime, and the events it has written. -/
structure Journal where
  handed : Bool
  written : List WorkflowEvent

def journal (call : SharedCall) : Monitor calls Journal where
  allows _ op := writesOnly call.workflowId op
  replies _ _ := True
  next k op _ :=
    { handed := k.handed || call.handsOver op, written := k.written ++ (eventOf op).toList }

section Journal

variable {call : SharedCall} {α : Type} {Q : α → Journal → Prop} {k : Journal}

/-- Calls that neither hand over nor write an event leave the journal as it is. -/
theorem journal_quiet {op : Op} {f : op.Reply → Service α} (hwrites : writesOnly call.workflowId op)
    (hevent : eventOf op = none) (hover : call.handsOver op = false)
    (hf : ∀ r, (f r).Obeys (journal call) Q k) : (ask op >>= f).Obeys (journal call) Q k := by
  refine Program.obeys_perform_bind hwrites fun r _ => ?_
  have hnext : (journal call).next k op r = k := by simp [journal, hevent, hover]
  rw [hnext]
  exact hf r

theorem journal_publish (id : WorkflowId) :
    (publishWorkflowUpdate id).Obeys (journal call) (fun _ k' => k' = k) k := by
  unfold publishWorkflowUpdate
  split
  · exact Program.obeys_pure rfl
  · exact journal_quiet trivial rfl (by cases call <;> rfl) fun _ => Program.obeys_pure rfl

theorem journal_persistResponse {p : Persisting} (hid : p.workflowId = call.workflowId)
    (recordedAt : Int) (record : WorkflowRecord) (response : Option RuntimeApiResponse) :
    (persistResponse p recordedAt record response).Obeys (journal call) (fun _ k' => k' = k) k := by
  cases response with
  | none => exact Program.obeys_pure rfl
  | some response =>
    have hplan : (persistPlanVersion p recordedAt record response).Obeys (journal call)
        (fun _ k' => k' = k) k := by
      unfold persistPlanVersion
      split
      · exact journal_quiet hid rfl (by cases call <;> rfl) fun _ => Program.obeys_pure rfl
      · exact Program.obeys_pure rfl
    refine hplan.bind ?_
    rintro _ _ rfl
    unfold persistIdempotency
    split
    · exact Program.obeys_pure rfl
    · exact journal_quiet trivial rfl (by cases call <;> rfl) fun _ => Program.obeys_pure rfl

theorem journal_persistEvent {p : Persisting} (hid : p.workflowId = call.workflowId)
    (record : WorkflowRecord) (event : WorkflowEvent) :
    (persistEvent p record event).Obeys (journal call)
      (fun _ k' => k' = { k with written := k.written ++ [event] }) k := by
  refine journal_quiet trivial rfl (by cases call <;> rfl) fun recordedAt => ?_
  refine (journal_persistResponse hid recordedAt _ event.response).bind ?_
  rintro _ _ rfl
  refine Program.obeys_perform_bind hid fun _ _ => ?_
  refine journal_quiet trivial rfl (by cases call <;> rfl) fun _ => ?_
  refine (journal_publish _).bind ?_
  rintro _ _ rfl
  refine Program.obeys_pure ?_
  cases call <;> simp [journal, eventOf, SharedCall.handsOver]

theorem journal_persistEvents {p : Persisting} (hid : p.workflowId = call.workflowId)
    (record : WorkflowRecord) (events : List WorkflowEvent) :
    (persistEvents p record events).Obeys (journal call)
      (fun yielded k' => yielded = events ∧ k' = { k with written := k.written ++ events }) k := by
  induction events generalizing record k with
  | nil => exact Program.obeys_pure ⟨rfl, by simp⟩
  | cons event rest ih =>
    refine (journal_persistEvent hid record event).bind ?_
    rintro record' _ rfl
    refine (ih record').bind ?_
    rintro yielded _ ⟨rfl, rfl⟩
    exact Program.obeys_pure ⟨rfl, by simp⟩

/-- After a stream: if it was handed over, the events written are those it yields. -/
def Journal.Covers (stream : List WorkflowEvent) (k : Journal) : Prop :=
  k.handed = true → k.written = stream

variable {env : Environment}

theorem journal_submitAccepted (config : WorkflowConfig) (auth : ClientAuthContext)
    (key : Option String) :
    (submitAccepted env (Operator.replacementRequest config auth key)).Obeys
      (journal (.submit config auth key)) Journal.Covers ⟨false, []⟩ := by
  refine journal_quiet trivial rfl rfl fun now => ?_
  refine journal_quiet trivial rfl rfl fun existing => ?_
  refine journal_quiet trivial rfl rfl fun _ => ?_
  refine (journal_publish _).bind ?_
  rintro _ _ rfl
  refine journal_quiet trivial rfl rfl fun _ => ?_
  refine Program.obeys_perform_bind trivial fun events _ => ?_
  refine (journal_persistEvents rfl _ events).mono ?_
  rintro yielded _ ⟨rfl, rfl⟩
  intro _
  rfl

theorem journal_streamSubmitWorkflow (config : WorkflowConfig) (auth : ClientAuthContext)
    (key : Option String) :
    (streamSubmitWorkflow env (Operator.replacementRequest config auth key)).Obeys
      (journal (.submit config auth key)) Journal.Covers ⟨false, []⟩ := by
  simp only [streamSubmitWorkflow]
  split
  · exact journal_submitAccepted config auth key
  · refine journal_quiet trivial rfl rfl fun existing => ?_
    cases existing with
    | none => exact journal_submitAccepted config auth key
    | some existing =>
      dsimp only
      split <;> exact Program.obeys_pure fun h => absurd h Bool.false_ne_true

theorem journal_hydrate (hover : ∀ r, call.handsOver (.runtimeSubmitWorkflow r) = false)
    (auth : ClientAuthContext) (workflowId : WorkflowId) (config : WorkflowConfig) :
    (hydrate auth workflowId config).Obeys (journal call) (fun _ k' => k' = k) k := by
  refine journal_quiet trivial rfl (by cases call <;> rfl) fun hydrated => ?_
  split
  · exact Program.obeys_pure rfl
  · refine journal_quiet trivial rfl (hover _) fun events => ?_
    dsimp only
    split
    · exact Program.obeys_pure rfl
    · exact journal_quiet trivial rfl (by cases call <;> rfl) fun _ => Program.obeys_pure rfl

theorem journal_reorchestrateAccepted {request : ReorchestrateRequest}
    (hid : request.workflowId = call.workflowId) (record : WorkflowRecord) :
    (reorchestrateAccepted env request record).Obeys (journal call) Journal.Covers ⟨false, []⟩ := by
  refine Program.obeys_perform_bind trivial fun events _ => ?_
  refine (journal_persistEvents hid record events).mono ?_
  rintro yielded _ ⟨rfl, rfl⟩
  intro _
  rfl

theorem journal_streamReorchestrate (hover : ∀ r, call.handsOver (.runtimeSubmitWorkflow r) = false)
    {request : ReorchestrateRequest} (hid : request.workflowId = call.workflowId) :
    (streamReorchestrate env request).Obeys (journal call) Journal.Covers ⟨false, []⟩ := by
  have hrefused : ∀ stream, Program.Obeys (journal call) Journal.Covers ⟨false, []⟩
      (pure stream : Service _) :=
    fun stream => Program.obeys_pure fun h => absurd h Bool.false_ne_true
  refine journal_quiet trivial rfl (by cases call <;> rfl) fun reply => ?_
  cases reply with
  | none => exact hrefused _
  | some record =>
    dsimp only
    split
    · exact hrefused _
    · refine (journal_hydrate hover request.auth request.workflowId record.config).bind ?_
      rintro failure _ rfl
      cases failure with
      | some response => exact hrefused _
      | none =>
        dsimp only
        split
        · exact journal_reorchestrateAccepted hid record
        · refine journal_quiet trivial rfl (by cases call <;> rfl) fun existing => ?_
          cases existing with
          | none => exact journal_reorchestrateAccepted hid record
          | some existing =>
            dsimp only
            split <;> exact hrefused _

theorem journal_lifecycleAction (newState : WorkflowRecord → WorkflowLifecycleState)
    (action defaultDetail : String) {request : LifecycleRequest}
    (hid : request.workflowId = call.workflowId) :
    (lifecycleAction newState action defaultDetail request).Obeys (journal call)
      (fun _ _ => True) k := by
  refine journal_quiet trivial rfl (by cases call <;> rfl) fun reply => ?_
  cases reply with
  | none => exact Program.obeys_pure trivial
  | some stored =>
    refine journal_quiet trivial rfl (by cases call <;> rfl) fun _ => ?_
    refine journal_quiet trivial rfl (by cases call <;> rfl) fun _ => ?_
    refine journal_quiet trivial rfl (by cases call <;> rfl) fun _ => ?_
    refine journal_quiet hid rfl (by cases call <;> rfl) fun _ => ?_
    refine journal_quiet trivial rfl (by cases call <;> rfl) fun _ => ?_
    exact (journal_publish _).bind fun _ _ _ => Program.obeys_pure trivial

theorem journal_program (call : SharedCall) :
    (call.program env).Obeys (journal call)
      (fun answer k => ∀ stream, answer = .events stream → k.Covers stream) ⟨false, []⟩ := by
  cases call with
  | submit config auth key =>
    refine (journal_streamSubmitWorkflow config auth key).bind fun stream k' h =>
      Program.obeys_pure ?_
    rintro _ ⟨rfl⟩
    exact h
  | reorchestrate request =>
    refine (journal_streamReorchestrate (by simp [SharedCall.handsOver]) rfl).bind
      fun stream k' h => ?_
    refine Program.obeys_pure ?_
    rintro _ ⟨rfl⟩
    exact h
  | pause request =>
    refine (journal_lifecycleAction _ _ _ rfl).bind fun response k' _ => Program.obeys_pure ?_
    exact fun _ h => absurd h (by simp)
  | cancel request =>
    refine (journal_lifecycleAction _ _ _ rfl).bind fun response k' _ => Program.obeys_pure ?_
    exact fun _ h => absurd h (by simp)
  | intervene request =>
    refine Program.Obeys.bind (Q := fun _ _ => True) ?_ fun response k' _ => Program.obeys_pure ?_
    · refine journal_quiet trivial rfl rfl fun reply => ?_
      cases reply with
      | none => exact Program.obeys_pure trivial
      | some stored =>
        refine journal_quiet trivial rfl rfl fun _ => ?_
        refine journal_quiet rfl rfl rfl fun _ => ?_
        refine journal_quiet trivial rfl rfl fun _ => ?_
        refine (journal_publish _).bind ?_
        rintro _ _ rfl
        refine (journal_streamReorchestrate (fun _ => rfl) rfl).bind fun _ _ _ => ?_
        refine journal_quiet trivial rfl rfl fun refreshed => ?_
        split <;> exact Program.obeys_pure trivial
    · exact fun _ h => absurd h (by simp)
  | appendAuditEntry id actor action detail =>
    refine Program.Obeys.bind (Q := fun _ _ => True) ?_ fun response k' _ => Program.obeys_pure ?_
    · refine journal_quiet trivial rfl rfl fun reply => ?_
      cases reply with
      | none => exact Program.obeys_pure trivial
      | some stored =>
        refine journal_quiet trivial rfl rfl fun _ => ?_
        refine journal_quiet rfl rfl rfl fun _ => ?_
        refine journal_quiet trivial rfl rfl fun _ => ?_
        exact (journal_publish _).mono fun _ _ _ => trivial
    · exact fun _ h => absurd h (by simp)

end Journal

def journalOf (call : SharedCall) (log : List (Op × World)) : Journal where
  handed := log.any fun entry => call.handsOver entry.1
  written := eventsWritten log

theorem journalOf_snoc (call : SharedCall) (log : List (Op × World)) (op : Op) (w : World)
    (r : op.Reply) :
    journalOf call (log ++ [(op, w)]) = (journal call).next (journalOf call log) op r := by
  simp only [journalOf, journal, eventsWritten, List.any_append, List.any_cons, List.any_nil,
    Bool.or_false, List.filterMap_append, Journal.mk.injEq, true_and]
  cases h : eventOf op <;> simp [h]

@[simp] theorem ownLog_snoc_self (party : Bool) (trace : Trace) (entry : Op × World) :
    ownLog party (trace ++ [(party, entry)]) = ownLog party trace ++ [entry] := by
  simp [ownLog]

theorem ownLog_snoc_other {party other : Bool} (h : other ≠ party) (trace : Trace)
    (entry : Op × World) :
    ownLog party (trace ++ [(other, entry)]) = ownLog party trace := by
  simp [ownLog, h]

/-- In every interleaving the two calls write only for their workflow, and each stream that
was handed over has written the events it yields. -/
theorem journal_interleaved {env : Environment} {first second : SharedCall} {w t : World}
    {trace : Trace} {a b : Answer} (hid : second.workflowId = first.workflowId)
    (run : Program.Interleaved (handle env) (first.program env) (second.program env) w trace a b
      t) :
    (∀ entry ∈ trace, writesOnly first.workflowId entry.2.1) ∧
    (∀ stream, a = .events stream → (journalOf first (ownLog true trace)).Covers stream) ∧
    (∀ stream, b = .events stream → (journalOf second (ownLog false trace)).Covers stream) := by
  let Rel := fun (log : Trace) (_ : World) (k m : Journal) (_ : Trace) =>
    k = journalOf first (ownLog true log) ∧ m = journalOf second (ownLog false log) ∧
      ∀ entry ∈ log, writesOnly first.workflowId entry.2.1
  have hgrow : ∀ (log : Trace) (entry : Bool × Op × World),
      (∀ e ∈ log, writesOnly first.workflowId e.2.1) →
      writesOnly first.workflowId entry.2.1 →
        ∀ e ∈ log ++ [entry], writesOnly first.workflowId e.2.1 := by
    intro log entry hlog hentry e he
    rcases List.mem_append.mp he with he | he
    · exact hlog e he
    · obtain rfl := List.mem_singleton.mp he
      exact hentry
  obtain ⟨k, m, hk, hm, rfl, rfl, hwrites⟩ := Program.Interleaved.preserves
    (M := journal first) (N := journal second)
    (fun log u k m op rest ⟨hk, hm, hlog⟩ hallows => by
      refine ⟨trivial, ?_, ?_, hgrow _ _ hlog hallows⟩
      · rw [ownLog_snoc_self, hk]
        exact (journalOf_snoc first _ op _ _).symm
      · rw [ownLog_snoc_other (by simp)]
        exact hm)
    (fun log u k m op rest ⟨hk, hm, hlog⟩ hallows => by
      refine ⟨trivial, ?_, ?_, hgrow _ _ hlog (hid ▸ hallows)⟩
      · rw [ownLog_snoc_other (by simp)]
        exact hk
      · rw [ownLog_snoc_self, hm]
        exact (journalOf_snoc second _ op _ _).symm)
    run (journal_program first) (journal_program second)
    (show Rel [] w ⟨false, []⟩ ⟨false, []⟩ trace from
      ⟨rfl, rfl, fun _ h => absurd h List.not_mem_nil⟩)
  exact ⟨hwrites, hk, hm⟩

theorem mem_map_put_kept {ρ κ τ : Type} [DecidableEq κ] {key : ρ → κ} {t : KeyedRows key} {r : ρ}
    {f : ρ → τ} {g : τ → κ} (hf : ∀ x, g (f x) = key x) {y : τ} (hy : y ∈ t.rows.map f)
    (hkey : g (f r) ≠ g y) : y ∈ (t.put r).rows.map f := by
  obtain ⟨x, hx, rfl⟩ := List.mem_map.mp hy
  refine List.mem_map.mpr ⟨x, (KeyedRows.mem_put t r x).mpr (Or.inr ⟨hx, fun he => hkey ?_⟩), rfl⟩
  rw [hf, hf, he]

theorem mem_map_put_self {ρ κ τ : Type} [DecidableEq κ] {key : ρ → κ} (t : KeyedRows key) (r : ρ)
    (f : ρ → τ) :
    f r ∈ (t.put r).rows.map f :=
  List.mem_map.mpr ⟨r, (KeyedRows.mem_put t r r).mpr (Or.inl rfl), rfl⟩

theorem history_handle_kept {env : Environment} {op : Op} {w : World} {table : Table}
    {id : WorkflowId} {x : HistoryRow HistoryPayload} (hop : writesOnly id op)
    (hx : x ∈ history w.store table)
    (hkey : ∀ r, writtenRow table (handle env op w).2.store.currentBootId op = some r →
      r.key ≠ x.key) :
    x ∈ history (handle env op w).2.store table := by
  cases op with
  | writeEvent id e =>
    cases table with
    | events => exact mem_map_put_kept (g := HistoryRow.key) (fun _ => rfl) hx (hkey _ rfl)
    | planVersions | auditEntries => exact hx
  | writePlanVersion id v =>
    cases table with
    | planVersions => exact mem_map_put_kept (g := HistoryRow.key) (fun _ => rfl) hx (hkey _ rfl)
    | events | auditEntries => exact hx
  | writeAuditEntry id a =>
    cases table with
    | auditEntries => exact mem_map_put_kept (g := HistoryRow.key) (fun _ => rfl) hx (hkey _ rfl)
    | events | planVersions => exact hx
  | pruneStaleBootData before => exact absurd hop not_false
  | _ => cases table <;> exact hx

theorem writtenRow_cases {table : Table} {bootId : String} {op : Op}
    {row : HistoryRow HistoryPayload} (h : writtenRow table bootId op = some row) :
    (∃ id e, op = .writeEvent id e ∧ table = .events ∧
      row = HistoryRow.tag .event (Store.eventRow bootId id e)) ∨
    (∃ id v, op = .writePlanVersion id v ∧ table = .planVersions ∧
      row = HistoryRow.tag .planVersion (Store.planVersionRow bootId id v)) ∨
    (∃ id a, op = .writeAuditEntry id a ∧ table = .auditEntries ∧
      row = HistoryRow.tag .audit (Store.auditRow bootId id a)) := by
  unfold writtenRow at h
  split at h <;> try split_ifs at h
  all_goals simp_all

theorem history_handle_new {env : Environment} {op : Op} {w : World} {table : Table}
    {x : HistoryRow HistoryPayload}
    (hx : writtenRow table (handle env op w).2.store.currentBootId op = some x) :
    x ∈ history (handle env op w).2.store table := by
  rcases writtenRow_cases hx with ⟨id, e, rfl, rfl, rfl⟩ | ⟨id, v, rfl, rfl, rfl⟩
    | ⟨id, a, rfl, rfl, rfl⟩ <;>
    exact mem_map_put_self _ _ _

theorem history_kept {env : Environment} {w t : World} {log : List (Op × World)} {id : WorkflowId}
    (h : Program.Chain (handle env) w log t) (hops : ∀ entry ∈ log, writesOnly id entry.1)
    {table : Table} {x : HistoryRow HistoryPayload} (hx : x ∈ history w.store table)
    (hkey : ∀ r ∈ writtenRows table log, r.key ≠ x.key) : x ∈ history t.store table := by
  induction log generalizing w with
  | nil =>
    obtain rfl : t = w := h
    exact hx
  | cons entry rest ih =>
    obtain ⟨op, w'⟩ := entry
    obtain ⟨rfl, hrest⟩ := h
    refine ih hrest (fun e he => hops e (List.mem_cons_of_mem _ he)) ?_ fun r hr => hkey r ?_
    · refine history_handle_kept (hops _ List.mem_cons_self) hx fun r hr => hkey r ?_
      exact List.mem_filterMap.mpr ⟨_, List.mem_cons_self, hr⟩
    · obtain ⟨e, he, hrow⟩ := List.mem_filterMap.mp hr
      exact List.mem_filterMap.mpr ⟨e, List.mem_cons_of_mem _ he, hrow⟩

/-- Rows written under distinct keys are all stored in the end. -/
theorem history_written {env : Environment} {w t : World} {log : List (Op × World)}
    {id : WorkflowId} (h : Program.Chain (handle env) w log t)
    (hops : ∀ entry ∈ log, writesOnly id entry.1) {table : Table}
    (hnodup : ((writtenRows table log).map HistoryRow.key).Nodup) {x : HistoryRow HistoryPayload}
    (hx : x ∈ writtenRows table log) : x ∈ history t.store table := by
  induction log generalizing w with
  | nil => exact absurd hx List.not_mem_nil
  | cons entry rest ih =>
    obtain ⟨op, w'⟩ := entry
    obtain ⟨rfl, hrest⟩ := h
    have hops' : ∀ e ∈ rest, writesOnly id e.1 := fun e he => hops e (List.mem_cons_of_mem _ he)
    unfold writtenRows at hx hnodup
    rw [List.filterMap_cons] at hx hnodup
    split at hx
    · rename_i hnone
      simp only [hnone] at hnodup
      exact ih hrest hops' hnodup hx
    · rename_i row hsome
      simp only [hsome, List.map_cons, List.nodup_cons] at hnodup
      rcases List.mem_cons.mp hx with rfl | hx
      · refine history_kept hrest hops' (history_handle_new hsome) fun r hr he => ?_
        exact hnodup.1 (List.mem_map.mpr ⟨r, hr, he⟩)
      · exact ih hrest hops' hnodup.2 hx

theorem writtenRows_workflowId {id : WorkflowId} {table : Table} {log : List (Op × World)}
    (hops : ∀ entry ∈ log, writesOnly id entry.1) {row : HistoryRow HistoryPayload}
    (hrow : row ∈ writtenRows table log) : row.workflowId = id := by
  obtain ⟨⟨op, w⟩, hmem, hwritten⟩ := List.mem_filterMap.mp hrow
  have hop := hops _ hmem
  rcases writtenRow_cases hwritten with ⟨id, e, rfl, -, rfl⟩ | ⟨id, v, rfl, -, rfl⟩
    | ⟨id, a, rfl, -, rfl⟩ <;>
    exact hop

section Grown

variable {env : Environment} {id : WorkflowId} {w t : World} {log : List (Op × World)}

theorem numbers_of_writesOnly (hops : ∀ entry ∈ log, writesOnly id entry.1) (table : Table) :
    (ledger env id).numbers table (log.map Prod.fst) =
      (writtenRows table log).map HistoryRow.sequence := by
  rw [numbers_eq, List.filter_eq_self.mpr]
  intro row hrow
  simpa using writtenRows_workflowId hops hrow

theorem keys_nodup_of_grown {floor top : Table → Int} (hops : ∀ entry ∈ log, writesOnly id entry.1)
    (hgrown : (ledger env id).Grown floor (log.map Prod.fst) top) (table : Table) :
    ((writtenRows table log).map HistoryRow.key).Nodup := by
  have hincreasing := hgrown.increasing table
  rw [numbers_of_writesOnly hops, List.pairwise_map] at hincreasing
  refine List.pairwise_map.mpr (hincreasing.imp ?_)
  intro a b hlt hab
  exact absurd (Prod.mk.inj hab).2 (by omega)

theorem countersLargest_of_grown (hchain : Program.Chain (handle env) w log t)
    (hops : ∀ entry ∈ log, writesOnly id entry.1)
    (hgrown : (ledger env id).Grown (storedCounters id w) (log.map Prod.fst) (storedCounters id t))
    (hstart : CountersLargest id w) : CountersLargest id t := by
  intro table
  have hnumber : ∀ row ∈ writtenRows table log,
      row.sequence ∈ (ledger env id).numbers table (log.map Prod.fst) := by
    intro row hrow
    rw [numbers_of_writesOnly hops]
    exact List.mem_map.mpr ⟨row, hrow, rfl⟩
  refine ⟨fun row hrow hid => ?_, ?_⟩
  · rcases history_chain hchain (Or.inr rfl) hrow with hold | hnew
    · have hle := (hstart table).1 row hold hid
      have hfloor := hgrown.floor_le table
      omega
    · exact hgrown.below table _ (hnumber row hnew)
  · rcases hgrown.attained table with hsame | hnew
    · rw [hsame]
      rcases (hstart table).2 with hzero | ⟨row, hrow, hid, hsequence⟩
      · exact Or.inl hzero
      · refine Or.inr ⟨row, history_kept hchain hops hrow fun r hr he => ?_, hid, hsequence⟩
        have habove := hgrown.above table _ (hnumber r hr)
        have heq : r.sequence = row.sequence := (Prod.mk.inj he).2
        omega
    · rw [numbers_of_writesOnly hops] at hnew
      obtain ⟨row, hrow, hsequence⟩ := List.mem_map.mp hnew
      refine Or.inr ⟨row, ?_, writtenRows_workflowId hops hrow, hsequence⟩
      exact history_written hchain hops (keys_nodup_of_grown hops hgrown table) hrow

end Grown

end TaskOrchestrator.System
