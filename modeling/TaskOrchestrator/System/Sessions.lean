import TaskOrchestrator.System.Effects
import TaskOrchestrator.System.StoredRecords

/-!
# Stored configurations and runtime sessions

The same workflow is stored twice: its configuration in the database and its session in the
runtime. Submissions write both, a replay writes the session from the configuration, and
overrides write the session only.
-/

namespace TaskOrchestrator.System

open Protocol Library ControlPlane

set_option autoImplicit false

def Hydrated (w : World) : Prop := ∀ id ∈ w.hydrated, (w.sessions.lookup id).isSome = true

/-- The plans stay, and a session stays or is made again from its configuration. -/
structure Refreshes (w w' : World) : Prop where
  plans : SamePlans w w'
  sessions : ∀ id, w'.sessions.lookup id = w.sessions.lookup id ∨
    ∃ config, storedConfig w id = some config ∧
      w'.sessions.lookup id = some (App.toAppWorkflow config)

theorem Refreshes.refl (w : World) : Refreshes w w := ⟨.refl w, fun _ => Or.inl rfl⟩

theorem Refreshes.configs {w w' : World} (h : Refreshes w w') (id : WorkflowId) :
    storedConfig w' id = storedConfig w id := h.plans.configs id

theorem Refreshes.trans {u v w : World} (huv : Refreshes u v) (hvw : Refreshes v w) :
    Refreshes u w := by
  refine ⟨huv.plans.trans hvw.plans, fun id => ?_⟩
  rcases hvw.sessions id with hsame | ⟨config, hconfig, hsession⟩
  · rw [hsame]
    exact huv.sessions id
  · exact Or.inr ⟨config, (huv.configs id).symm.trans hconfig, hsession⟩

theorem Refreshes.of_same {w w' : World} (hplans : SamePlans w w')
    (hsessions : w'.sessions = w.sessions) :
    Refreshes w w' :=
  ⟨hplans, fun _ => Or.inl (by rw [hsessions])⟩

theorem Refreshes.isSome {w w' : World} (h : Refreshes w w') {id : WorkflowId}
    (hid : (w.sessions.lookup id).isSome = true) : (w'.sessions.lookup id).isSome = true := by
  rcases h.sessions id with hsame | ⟨config, -, hnew⟩
  · rw [hsame]
    exact hid
  · rw [hnew]
    rfl

def Justified (w w' : World) : Prop :=
  ∀ id ∈ w'.hydrated, id ∈ w.hydrated ∨ (w'.sessions.lookup id).isSome = true

theorem Justified.of_same {w w' : World} (h : w'.hydrated = w.hydrated) : Justified w w' :=
  fun _ hid => Or.inl (h ▸ hid)

theorem Justified.trans {u v w : World} (huv : Justified u v) (hvw : Justified v w)
    (hsessions : Refreshes v w) :
    Justified u w := by
  intro id hid
  rcases hvw id hid with hold | hnew
  · rcases huv id hold with hold | hnew
    · exact Or.inl hold
    · exact Or.inr (hsessions.isSome hnew)
  · exact Or.inr hnew

theorem Justified.hydrated {w w' : World} (h : Justified w w') (hsessions : Refreshes w w')
    (hw : Hydrated w) :
    Hydrated w' := by
  intro id hid
  rcases h id hid with hold | hnew
  · exact hsessions.isSome (hw id hold)
  · exact hnew

theorem Refreshes.configsKeyed {w w' : World} (h : Refreshes w w') (hw : ConfigsKeyed w) :
    ConfigsKeyed w' := by
  intro id config hconfig
  exact hw id config ((h.configs id).symm.trans hconfig)

theorem lookup_replayedSessions (env : Environment) (auth : ClientAuthContext)
    (config : WorkflowConfig) (sessions : App.Sessions) (id : WorkflowId) :
    (replayedSessions env auth config sessions).lookup id =
      if authorized env auth = true ∧ config.id = id then some (App.toAppWorkflow config)
      else sessions.lookup id := by
  unfold replayedSessions
  by_cases hauth : authorized env auth = true
  · simp [hauth, Dictionary.lookup_assign]
  · simp [hauth]

theorem Refreshes.replay {env : Environment} {auth : ClientAuthContext} {w w' : World}
    {config : WorkflowConfig} (hkeyed : ConfigsKeyed w) {workflowId : WorkflowId}
    (hstored : storedConfig w workflowId = some config) (hplans : SamePlans w w')
    (hsessions : w'.sessions = replayedSessions env auth config w.sessions) :
    Refreshes w w' := by
  have hid : config.id = workflowId := hkeyed workflowId config hstored
  refine ⟨hplans, fun id => ?_⟩
  rw [hsessions, lookup_replayedSessions]
  split_ifs with hnew
  · obtain ⟨-, rfl⟩ := hnew
    exact Or.inr ⟨config, hid ▸ hstored, rfl⟩
  · exact Or.inl rfl

section Operations

variable (env : Environment)

theorem lifecycleAction_keeps (newState : WorkflowRecord → WorkflowLifecycleState)
    (action detail : String) (request : LifecycleRequest) (w : World) :
    let w' := ((lifecycleAction newState action detail request).run (handle env) w).2
    SamePlans w w' ∧ w'.sessions = w.sessions ∧ w'.hydrated = w.hydrated := by
  simp only [lifecycleAction, Program.run_bind, run_getWorkflow]
  cases hstored : w.store.getWorkflow request.workflowId with
  | none => exact ⟨.refl w, rfl, rfl⟩
  | some stored =>
    have hid := Store.workflowId_of_getWorkflow hstored
    simp only [Program.run_bind, run_unixTimeMsNow, run_upsertWorkflow, run_writeAuditEntry,
      run_publishWorkflowUpdate, Program.run_pure, and_self, and_true]
    refine .update hstored ?_ (fun other hne => ?_) rfl
    · simp only [Store.getWorkflow_upsertWorkflow, hid, if_true]
      rfl
    · simp only [Store.getWorkflow_upsertWorkflow, Store.getWorkflow_writeAuditEntry, hid,
        if_neg hne]

theorem appendAuditEntry_keeps (workflowId : WorkflowId) (actor action detail : String)
    (w : World) :
    let w' := ((Operator.appendAuditEntry workflowId actor action detail).run (handle env) w).2
    SamePlans w w' ∧ w'.sessions = w.sessions ∧ w'.hydrated = w.hydrated := by
  simp only [Operator.appendAuditEntry, Program.run_bind, run_getWorkflow]
  cases hstored : w.store.getWorkflow workflowId with
  | none => exact ⟨.refl w, rfl, rfl⟩
  | some stored =>
    have hid := Store.workflowId_of_getWorkflow hstored
    simp only [Program.run_bind, run_unixTimeMsNow, run_upsertWorkflow, run_writeAuditEntry,
      run_publishWorkflowUpdate, and_self, and_true]
    refine .update hstored ?_ (fun other hne => ?_) rfl
    · simp only [Store.getWorkflow_upsertWorkflow, hid, if_true]
      rfl
    · simp only [Store.getWorkflow_upsertWorkflow, Store.getWorkflow_writeAuditEntry, hid,
        if_neg hne]

theorem run_recoverWorkflow (auth : ClientAuthContext) (workflow : WorkflowRecord) (w : World) :
    let w' := ((recoverWorkflow auth workflow).run (handle env) w).2
    (∀ id, w'.store.getWorkflow id =
      if workflow.summary.workflowId = id then
        some { workflow with
          summary.totalAuditEntryCount := workflow.summary.totalAuditEntryCount + 1
          summary.updatedAtUnixMs := w.clock w.ticks }
      else w.store.getWorkflow id) ∧
    w'.store.planVersions = w.store.planVersions ∧
    w'.sessions = replayedSessions env auth workflow.config w.sessions ∧
    w'.hydrated = w.hydrated.insert workflow.summary.workflowId := by
  simp only [recoverWorkflow, Program.run_bind, run_unixTimeMsNow, run_upsertWorkflow,
    run_writeAuditEntry, run_publishWorkflowUpdate, run_runtimeSubmitWorkflow, run_hydratedInsert,
    Store.getWorkflow_upsertWorkflow, Store.getWorkflow_writeAuditEntry, and_true]
  exact ⟨fun _ => trivial, rfl, (runtimeReplay env auth workflow.config w.sessions).2⟩

theorem recoverWorkflows_refreshes (auth : ClientAuthContext) {workflows : List WorkflowRecord}
    {w : World} (hkeyed : ConfigsKeyed w) (hnodup : (workflows.map recordKey).Nodup)
    (hstored : ∀ r ∈ workflows, w.store.getWorkflow r.summary.workflowId = some r) :
    Refreshes w ((recoverWorkflows auth workflows).run (handle env) w).2 := by
  induction workflows generalizing w with
  | nil => exact .refl w
  | cons workflow rest ih =>
    obtain ⟨hnew, hrestNodup⟩ := List.nodup_cons.mp hnodup
    have hrest : ∀ r ∈ rest, w.store.getWorkflow r.summary.workflowId = some r :=
      fun r hr => hstored r (List.mem_cons_of_mem _ hr)
    unfold recoverWorkflows
    split
    · exact ih hkeyed hrestNodup hrest
    · rw [Program.run_bind]
      obtain ⟨hget, hplans, hsessions, -⟩ := run_recoverWorkflow env auth workflow w
      have hworkflow := hstored workflow List.mem_cons_self
      have hfirst : Refreshes w ((recoverWorkflow auth workflow).run (handle env) w).2 := by
        have hsame : SamePlans w ((recoverWorkflow auth workflow).run (handle env) w).2 := by
          refine .update hworkflow ?_ (fun other hne => ?_) hplans
          · rw [hget, if_pos rfl]
            rfl
          · rw [hget, if_neg hne]
        exact .replay hkeyed (storedConfig_of_getWorkflow hworkflow) hsame hsessions
      refine hfirst.trans (ih (hfirst.configsKeyed hkeyed) hrestNodup fun r hr => ?_)
      rw [hget, if_neg]
      · exact hrest r hr
      · intro h
        exact hnew (List.mem_map.mpr ⟨r, hr, h.symm⟩)

/-- The recovery inserts an id only with a session, when the credentials are good or the
session is there already. -/
theorem recoverWorkflows_justified (auth : ClientAuthContext) {workflows : List WorkflowRecord}
    {w : World} (hkeyed : ∀ r ∈ workflows, r.config.id = r.summary.workflowId)
    (hsessions : authorized env auth = true ∨
      ∀ r ∈ workflows, skippedByRecovery r.summary.state = false →
      (w.sessions.lookup r.summary.workflowId).isSome = true) :
    (∀ id, (w.sessions.lookup id).isSome = true →
      (((recoverWorkflows auth workflows).run (handle env) w).2.sessions.lookup id).isSome = true) ∧
    Justified w ((recoverWorkflows auth workflows).run (handle env) w).2 := by
  induction workflows generalizing w with
  | nil => exact ⟨fun _ h => h, .of_same rfl⟩
  | cons workflow rest ih =>
    have hrestKeyed : ∀ r ∈ rest, r.config.id = r.summary.workflowId :=
      fun r hr => hkeyed r (List.mem_cons_of_mem _ hr)
    unfold recoverWorkflows
    split_ifs with hskipped
    · exact ih hrestKeyed (hsessions.imp_right fun h r hr => h r (List.mem_cons_of_mem _ hr))
    · rw [Program.run_bind]
      obtain ⟨-, -, hnext, hhydrated⟩ := run_recoverWorkflow env auth workflow w
      have hkeeps : ∀ id, (w.sessions.lookup id).isSome = true →
          (((recoverWorkflow auth workflow).run (handle env) w).2.sessions.lookup id).isSome =
            true := by
        intro id hid
        rw [hnext, lookup_replayedSessions]
        split_ifs
        · rfl
        · exact hid
      have hnew : (((recoverWorkflow auth workflow).run (handle env) w).2.sessions.lookup
          workflow.summary.workflowId).isSome = true := by
        rcases hsessions with hauth | hsessions
        · rw [hnext, lookup_replayedSessions, if_pos ⟨hauth, hkeyed workflow List.mem_cons_self⟩]
          rfl
        · exact hkeeps _ (hsessions workflow List.mem_cons_self (by simpa using hskipped))
      obtain ⟨hrestKeeps, hrest⟩ := ih hrestKeyed
        (hsessions.imp_right fun h r hr hactive =>
          hkeeps _ (h r (List.mem_cons_of_mem _ hr) hactive))
      refine ⟨fun id hid => hrestKeeps id (hkeeps id hid), fun id hid => ?_⟩
      rcases hrest id hid with hold | hsome
      · rw [hhydrated, List.mem_insert_iff] at hold
        rcases hold with rfl | hold
        · exact Or.inr (hrestKeeps _ hnew)
        · exact Or.inl hold
      · exact Or.inr hsome

theorem recoverWorkflows_lookup (auth : ClientAuthContext) {workflows : List WorkflowRecord}
    {w : World} (hkeyed : ∀ r ∈ workflows, r.config.id = r.summary.workflowId)
    (hnodup : (workflows.map recordKey).Nodup) (id : WorkflowId) :
    let w' := ((recoverWorkflows auth workflows).run (handle env) w).2
    (∀ r ∈ workflows, r.summary.workflowId = id → authorized env auth = true →
      skippedByRecovery r.summary.state = false →
        w'.sessions.lookup id = some (App.toAppWorkflow r.config)) ∧
    ((∀ r ∈ workflows, r.summary.workflowId = id → authorized env auth = true →
      skippedByRecovery r.summary.state = true) → w'.sessions.lookup id =
      w.sessions.lookup id) := by
  induction workflows generalizing w with
  | nil => exact ⟨by simp, fun _ => rfl⟩
  | cons workflow rest ih =>
    obtain ⟨hnew, hrestNodup⟩ := List.nodup_cons.mp hnodup
    have hrestKeyed : ∀ r ∈ rest, r.config.id = r.summary.workflowId :=
      fun r hr => hkeyed r (List.mem_cons_of_mem _ hr)
    unfold recoverWorkflows
    split_ifs with hskipped
    · obtain ⟨hrecovered, hkept⟩ := ih (w := w) hrestKeyed hrestNodup
      constructor
      · intro r hr hid hauth hactive
        rcases List.mem_cons.mp hr with rfl | hr
        · exact absurd (hskipped.symm.trans hactive) (by simp)
        · exact hrecovered r hr hid hauth hactive
      · intro h
        exact hkept fun r hr => h r (List.mem_cons_of_mem _ hr)
    · rw [Program.run_bind]
      obtain ⟨-, -, hsessions, -⟩ := run_recoverWorkflow env auth workflow w
      obtain ⟨hrecovered, hkept⟩ :=
        ih (w := ((recoverWorkflow auth workflow).run (handle env) w).2) hrestKeyed
        hrestNodup
      constructor
      · intro r hr hid hauth hactive
        rcases List.mem_cons.mp hr with rfl | hr
        · -- No later workflow has this id.
          have hlater : ∀ other ∈ rest, other.summary.workflowId = id → authorized env auth = true →
              skippedByRecovery other.summary.state = true := by
            intro other hother hsame
            exact absurd (List.mem_map.mpr ⟨other, hother, hsame.trans hid.symm⟩) hnew
          have hconfig : r.config.id = id := (hkeyed r List.mem_cons_self).trans hid
          rw [hkept hlater, hsessions, lookup_replayedSessions, if_pos ⟨hauth, hconfig⟩]
        · exact hrecovered r hr hid hauth hactive
      · intro h
        rw [hkept fun r hr => h r (List.mem_cons_of_mem _ hr), hsessions,
          lookup_replayedSessions, if_neg]
        rintro ⟨hauth, hconfig⟩
        have hid := (hkeyed workflow List.mem_cons_self).symm.trans hconfig
        exact hskipped (h workflow List.mem_cons_self hid hauth)

theorem recoverActiveWorkflows_refreshes (auth : ClientAuthContext) {w : World}
    (hkeyed : ConfigsKeyed w) :
    Refreshes w ((recoverActiveWorkflows auth).run (handle env) w).2 := by
  simp only [recoverActiveWorkflows, Program.run_bind, run_listAllWorkflows]
  exact recoverWorkflows_refreshes env auth hkeyed w.store.listAllWorkflows_nodup
    fun r hr => (Store.mem_listAllWorkflows w.store r).mp hr

theorem recoverActiveWorkflows_justified (auth : ClientAuthContext) {w : World}
    (hkeyed : ConfigsKeyed w)
    (hsessions : authorized env auth = true ∨ ∀ id record, w.store.getWorkflow id = some record →
      skippedByRecovery record.summary.state = false → (w.sessions.lookup id).isSome = true) :
    Justified w ((recoverActiveWorkflows auth).run (handle env) w).2 := by
  simp only [recoverActiveWorkflows, Program.run_bind, run_listAllWorkflows]
  have hstored : ∀ r ∈ w.store.listAllWorkflows,
      w.store.getWorkflow r.summary.workflowId = some r :=
    fun r hr => (Store.mem_listAllWorkflows w.store r).mp hr
  have hlisted : ∀ r ∈ w.store.listAllWorkflows, r.config.id = r.summary.workflowId :=
    fun r hr => hkeyed _ _ (storedConfig_of_getWorkflow (hstored r hr))
  exact (recoverWorkflows_justified env auth hlisted
    (hsessions.imp_right fun h r hr hactive => h _ r (hstored r hr) hactive)).2

/-- The recovery makes the session of the id from its stored configuration. -/
def Recovers (w : World) (auth : ClientAuthContext) (id : WorkflowId) : Prop :=
  authorized env auth = true ∧ ∃ record, w.store.getWorkflow id = some record ∧
    skippedByRecovery record.summary.state = false

theorem recoverActiveWorkflows_lookup (auth : ClientAuthContext) {w : World}
    (hkeyed : ConfigsKeyed w) (id : WorkflowId) :
    let w' := ((recoverActiveWorkflows auth).run (handle env) w).2
    (Recovers env w auth id → w'.sessions.lookup id = (storedConfig w id).map App.toAppWorkflow) ∧
    (¬ Recovers env w auth id → w'.sessions.lookup id = w.sessions.lookup id) := by
  simp only [recoverActiveWorkflows, Program.run_bind, run_listAllWorkflows]
  have hstored : ∀ r ∈ w.store.listAllWorkflows,
      w.store.getWorkflow r.summary.workflowId = some r :=
    fun r hr => (Store.mem_listAllWorkflows w.store r).mp hr
  obtain ⟨hrecovered, hkept⟩ := recoverWorkflows_lookup env auth (w := w)
    (fun r hr => hkeyed _ _ (storedConfig_of_getWorkflow (hstored r hr)))
      w.store.listAllWorkflows_nodup id
  constructor
  · rintro ⟨hauth, record, hrecord, hactive⟩
    have hid := Store.workflowId_of_getWorkflow hrecord
    have hlisted : record ∈ w.store.listAllWorkflows := by
      rw [Store.mem_listAllWorkflows, hid]
      exact hrecord
    rw [hrecovered record hlisted hid hauth hactive, storedConfig_of_getWorkflow hrecord]
    rfl
  · intro hnot
    apply hkept
    intro r hr hid hauth
    by_contra hactive
    exact hnot ⟨hauth, r, hid ▸ hstored r hr, by simpa using hactive⟩

def Reloads (w : World) (request : ReorchestrateRequest) : Prop :=
  authorized env request.auth = true ∧ request.workflowId ∉ w.hydrated ∧
    ∃ record, w.store.getWorkflow request.workflowId = some record ∧
    reorchestrateRefusal request record = none

def Reloaded (request : ReorchestrateRequest) (w w' : World) : Prop :=
  (Reloads env w request → w'.sessions.lookup request.workflowId =
    (storedConfig w request.workflowId).map App.toAppWorkflow) ∧
  ∀ id, ¬ (Reloads env w request ∧ request.workflowId = id) →
    w'.sessions.lookup id = w.sessions.lookup id

theorem Reloaded.of_not_reloads {request : ReorchestrateRequest} {w : World}
    (h : ¬ Reloads env w request) :
    Reloaded env request w w :=
  ⟨fun hreloads => absurd hreloads h, fun _ _ => rfl⟩

theorem Reloaded.of_replay {request : ReorchestrateRequest} {record : WorkflowRecord} {w w' : World}
    (hkeyed : ConfigsKeyed w) (hstored : w.store.getWorkflow request.workflowId = some record)
    (hadmitted : reorchestrateRefusal request record = none)
    (hmem : request.workflowId ∉ w.hydrated)
    (hsessions : w'.sessions = replayedSessions env request.auth record.config w.sessions) :
    Reloaded env request w w' := by
  have hconfig := storedConfig_of_getWorkflow hstored
  have hid : record.config.id = request.workflowId := hkeyed _ _ hconfig
  constructor
  · intro hreloads
    rw [hsessions, lookup_replayedSessions, if_pos ⟨hreloads.1, hid⟩, hconfig]
    rfl
  · intro id hnot
    rw [hsessions, lookup_replayedSessions, if_neg]
    rintro ⟨hauth, rfl⟩
    exact hnot ⟨⟨hauth, hmem, record, hstored, hadmitted⟩, hid.symm⟩

theorem replayed_refreshes {request : ReorchestrateRequest} {w w' : World} (hkeyed : ConfigsKeyed w)
    (h : Replayed env request w w') :
    Refreshes w w' ∧ Justified w w' ∧ Reloaded env request w w' := by
  cases h with
  | unchanged hstopped =>
    refine ⟨.refl w, .of_same rfl, .of_not_reloads env ?_⟩
    rintro ⟨-, hmem, record, hstored, hadmitted⟩
    exact hmem (hstopped record hstored hadmitted)
  | failed hstored hadmitted hmem =>
    have hconfig := storedConfig_of_getWorkflow hstored
    exact ⟨.replay hkeyed hconfig (.of_store rfl) rfl, .of_same rfl,
      .of_replay env hkeyed hstored hadmitted hmem rfl⟩
  | succeeded hstored hadmitted hmem hsucceeds =>
    have hconfig := storedConfig_of_getWorkflow hstored
    refine ⟨.replay hkeyed hconfig (.of_store rfl) rfl, fun id hid => ?_,
      .of_replay env hkeyed hstored hadmitted hmem rfl⟩
    rcases List.mem_insert_iff.mp hid with rfl | hold
    · right
      have hauth : authorized env request.auth = true := (Bool.and_eq_true_iff.mp hsucceeds).1
      have hcid := hkeyed _ _ hconfig
      simp [lookup_replayedSessions, hauth, hcid]
    · exact Or.inl hold

theorem hydratedWorld_refreshes {request : ReorchestrateRequest} {record : WorkflowRecord}
    {w : World} (hkeyed : ConfigsKeyed w) (h : ReachesRuntime env w request record) :
    Refreshes w (hydratedWorld env request record w) ∧
    Justified w (hydratedWorld env request record w) ∧
      Reloaded env request w (hydratedWorld env request record w) := by
  obtain ⟨hstored, hadmitted, hready, -⟩ := h
  unfold hydratedWorld
  split_ifs with hmem
  · exact ⟨.refl w, .of_same rfl, .of_not_reloads env fun hreloads => hreloads.2.1 hmem⟩
  · rcases hready with hmem' | hsucceeds
    · exact absurd hmem' hmem
    · exact replayed_refreshes env hkeyed (.succeeded hstored hadmitted hmem hsucceeds)

theorem streamReorchestrate_reached {request : ReorchestrateRequest} {record : WorkflowRecord}
    {w : World} (h : ReachesRuntime env w request record) :
    let w' := ((streamReorchestrate env request).run (handle env) w).2
    (∀ id, storedConfig w' id = storedConfig w id) ∧
    w'.sessions = (App.streamReorchestrate env.security env.optimize request
      (hydratedWorld env request record w).sessions).2 ∧
    w'.hydrated = (hydratedWorld env request record w).hydrated := by
  have hid := Store.workflowId_of_getWorkflow h.1
  rw [run_streamReorchestrate_reaches env h, run_reorchestrateAccepted]
  obtain ⟨-, hsessions, hhydrated, -⟩ :=
    run_persistEvents_frame env (reorchestratePersisting env request) record
    (App.streamReorchestrate env.security env.optimize request
      (hydratedWorld env request record w).sessions).1
    { hydratedWorld env request record w with
      sessions := (App.streamReorchestrate env.security env.optimize request
        (hydratedWorld env request record w).sessions).2 }
  refine ⟨fun id => ?_, hsessions, hhydrated⟩
  simp only [storedConfig, getWorkflow_persistEvents, hydratedWorld_store]
  split_ifs with hevents
  · rw [← hevents.2, hid, h.1]
    simp
  · rfl

/-- The request is handed to the runtime with good credentials and finds the session. -/
def Overrides (w : World) (request : ReorchestrateRequest) (session : App.WorkflowConfig) : Prop :=
  authorized env request.auth = true ∧ ∃ record, ReachesRuntime env w request record ∧
    (hydratedWorld env request record w).sessions.lookup request.workflowId = some session

/-- What a re-orchestration leaves: the stored configuration may have been replayed, and
then overrides may have been applied to the session. -/
def Reorchestrated (request : ReorchestrateRequest) (w w' : World) : Prop :=
  ∃ v, Refreshes w v ∧ Justified w v ∧ Reloaded env request w v ∧
    (∀ id, storedConfig w' id = storedConfig v id) ∧ w'.hydrated = v.hydrated ∧
    ((∀ session, ¬ Overrides env w request session) ∧ w'.sessions = v.sessions ∨
      ∃ session, Overrides env w request session ∧
      v.sessions.lookup request.workflowId = some session ∧
        w'.sessions = v.sessions.assign request.workflowId (App.applyOverrides request session))

theorem streamReorchestrate_effect (request : ReorchestrateRequest) {w : World}
    (hkeyed : ConfigsKeyed w) :
    Reorchestrated env request w ((streamReorchestrate env request).run (handle env) w).2 := by
  by_cases hreaches : ∃ record, ReachesRuntime env w request record
  · obtain ⟨record, hreaches⟩ := hreaches
    obtain ⟨hconfigs, hsessions, hhydrated⟩ := streamReorchestrate_reached env hreaches
    obtain ⟨hrefreshes, hjustified, hreloaded⟩ := hydratedWorld_refreshes env hkeyed hreaches
    refine ⟨hydratedWorld env request record w, hrefreshes, hjustified, hreloaded,
      fun id => (hconfigs id).trans (hrefreshes.configs id).symm, hhydrated, ?_⟩
    rw [hsessions]
    cases hauth : authorized env request.auth with
    | false =>
      obtain ⟨response, -, -, hstream⟩ := runtimeReorchestrate_rejected env (Or.inl hauth)
      refine Or.inl ⟨fun session hoverrides => ?_, by rw [hstream]⟩
      exact absurd (hauth.symm.trans hoverrides.1) (by simp)
    | true =>
      cases hsession : (hydratedWorld env request record w).sessions.lookup request.workflowId with
      | none =>
        obtain ⟨response, -, -, hstream⟩ := runtimeReorchestrate_rejected env (Or.inr hsession)
        refine Or.inl ⟨?_, by rw [hstream]⟩
        rintro session ⟨-, other, hother, hfound⟩
        obtain rfl := Option.some.inj (hreaches.1.symm.trans hother.1)
        exact absurd (hsession.symm.trans hfound) (by simp)
      | some session =>
        refine Or.inr ⟨session, ⟨hauth, record, hreaches, hsession⟩, rfl, ?_⟩
        rw [runtimeReorchestrate_accepted env hauth hsession]
  · obtain ⟨-, hreplayed⟩ := run_streamReorchestrate_stops env
      (fun record hrecord => hreaches ⟨record, hrecord⟩)
    obtain ⟨hrefreshes, hjustified, hreloaded⟩ := replayed_refreshes env hkeyed hreplayed
    refine ⟨_, hrefreshes, hjustified, hreloaded, fun _ => rfl, rfl, Or.inl ⟨?_, rfl⟩⟩
    rintro session ⟨-, record, hrecord, -⟩
    exact hreaches ⟨record, hrecord⟩

end Operations

/-- What a submission leaves. The stored configuration is replaced before the runtime has
decided. -/
def Submitted (env : Environment) (request : SubmitWorkflowRequest) (w w' : World) : Prop :=
  (KeyHit w (request.idempotencyKey.getD "") ∧ (∀ id, storedConfig w' id = storedConfig w id) ∧
    w'.sessions = w.sessions ∧ w'.hydrated = w.hydrated) ∨
  (¬ KeyHit w (request.idempotencyKey.getD "") ∧
    (∀ id, storedConfig w' id = if request.config.id = id then some request.config
      else storedConfig w id) ∧ w'.sessions = (if runtimeAccepts env request w.sessions then
        w.sessions.assign request.config.id (App.toAppWorkflow request.config) else w.sessions) ∧
    w'.hydrated = w.hydrated.insert request.config.id)

theorem streamSubmitWorkflow_effect (env : Environment) (request : SubmitWorkflowRequest)
    (w : World) :
    Submitted env request w ((streamSubmitWorkflow env request).run (handle env) w).2 := by
  by_cases hhit : KeyHit w (request.idempotencyKey.getD "")
  · left
    rw [(streamSubmitWorkflow_hit env request w hhit).1]
    exact ⟨hhit, fun _ => rfl, rfl, rfl⟩
  · right
    rw [streamSubmitWorkflow_miss env request w hhit]
    refine ⟨hhit, fun id => ?_, submitAccepted_sessions env request w,
      submitAccepted_hydrated env request w⟩
    simp only [storedConfig, submitAccepted_getWorkflow]
    split_ifs with hid
    · simp
    · rfl

def Request.submission (w : World) : Request → Option SubmitWorkflowRequest
  | .submit request => some request
  | .operatorUpsertWorkflow request =>
    if request.config.id = "" then none
    else some (Operator.replacementRequest request.config request.auth request.idempotencyKey)
  | .operatorUpsertTask request =>
    if request.workflowId = "" ∨ request.task.id = "" then none
    else (storedConfig w request.workflowId).map fun config =>
      Operator.replacementRequest (Operator.upsertTaskConfig config request.task) request.auth
        request.idempotencyKey
  | .operatorDeleteTask request =>
    if request.workflowId = "" ∨ request.taskId = "" then none
    else ((storedConfig w request.workflowId).filter fun config =>
      config.tasks.any fun t => t.id = request.taskId).map fun config =>
      Operator.replacementRequest (Operator.deleteTaskConfig config request.taskId) request.auth
        request.idempotencyKey
  | _ => none

theorem submission_upsertTask {request : UpsertOperatorTaskRequest} {w : World}
    {submission : SubmitWorkflowRequest}
    (h : (Request.operatorUpsertTask request).submission w = some submission) :
    request.workflowId ≠ "" ∧ request.task.id ≠ "" ∧
    ∃ record, w.store.getWorkflow request.workflowId = some record ∧
      submission = Operator.replacementRequest
        (Operator.upsertTaskConfig record.config request.task) request.auth
        request.idempotencyKey := by
  simp only [Request.submission] at h
  split_ifs at h with hempty
  obtain ⟨hworkflow, htask⟩ := not_or.mp hempty
  obtain ⟨config, hconfig, rfl⟩ := Option.map_eq_some_iff.mp h
  obtain ⟨record, hrecord, rfl⟩ := Option.map_eq_some_iff.mp hconfig
  exact ⟨hworkflow, htask, record, hrecord, rfl⟩

theorem submission_deleteTask {request : DeleteOperatorTaskRequest} {w : World}
    {submission : SubmitWorkflowRequest}
    (h : (Request.operatorDeleteTask request).submission w = some submission) :
    request.workflowId ≠ "" ∧ request.taskId ≠ "" ∧
    ∃ record, w.store.getWorkflow request.workflowId = some record ∧
      (record.config.tasks.any fun t => t.id = request.taskId) = true ∧
      submission = Operator.replacementRequest
        (Operator.deleteTaskConfig record.config request.taskId) request.auth
        request.idempotencyKey := by
  simp only [Request.submission] at h
  split_ifs at h with hempty
  obtain ⟨hworkflow, htask⟩ := not_or.mp hempty
  obtain ⟨config, hconfig, rfl⟩ := Option.map_eq_some_iff.mp h
  obtain ⟨hconfig, hany⟩ := Option.filter_eq_some_iff.mp hconfig
  obtain ⟨record, hrecord, rfl⟩ := Option.map_eq_some_iff.mp hconfig
  exact ⟨hworkflow, htask, record, hrecord, hany, rfl⟩

def Request.reorchestration : Request → Option ReorchestrateRequest
  | .reorchestrate request => some request
  | .intervene request => some (interventionReorchestrateRequest request)
  | .operatorIntervene request => some (interventionReorchestrateRequest request)
  | _ => none

/-- The two states have the same plans, sessions and hydrated ids. -/
structure SameProblems (w w' : World) : Prop where
  plans : SamePlans w w'
  sessions : w'.sessions = w.sessions
  hydrated : w'.hydrated = w.hydrated

theorem SameProblems.refl (w : World) : SameProblems w w := ⟨.refl w, rfl, rfl⟩

theorem SameProblems.submitted {env : Environment} {request : SubmitWorkflowRequest}
    {w v w' : World} (h : SameProblems v w') (hv : Submitted env request w v) :
    Submitted env request w w' := by
  rcases hv with ⟨hhit, hconfigs, hsessions, hhydrated⟩ | ⟨hmiss, hconfigs, hsessions, hhydrated⟩
  · exact Or.inl ⟨hhit, fun id => (h.plans.configs id).trans (hconfigs id),
      h.sessions.trans hsessions, h.hydrated.trans hhydrated⟩
  · exact Or.inr ⟨hmiss, fun id => (h.plans.configs id).trans (hconfigs id),
      h.sessions.trans hsessions, h.hydrated.trans hhydrated⟩

theorem SameProblems.refreshes {w w' : World} (h : SameProblems w w') : Refreshes w w' :=
  .of_same h.plans h.sessions

theorem SameProblems.justified {w w' : World} (h : SameProblems w w') :
    Justified w w' := .of_same h.hydrated

section Serve

variable (env : Environment)

theorem submitAndAudit_same (config : WorkflowConfig) (auth : ClientAuthContext)
    (key : Option String) (workflowId : WorkflowId) (actor action detail : String) (w : World) :
    SameProblems
      ((streamSubmitWorkflow env (Operator.replacementRequest config auth key)).run
        (handle env) w).2
      ((Operator.submitAndAudit env config auth key workflowId actor action detail).run
        (handle env) w).2 := by
  simp only [Operator.submitAndAudit, Program.run_bind, Program.run_pure]
  obtain ⟨hplans, hsessions, hhydrated⟩ := appendAuditEntry_keeps env workflowId actor action detail
    ((streamSubmitWorkflow env (Operator.replacementRequest config auth key)).run (handle env) w).2
  exact ⟨hplans, hsessions, hhydrated⟩

theorem serve_submission_same {request : Request} {w : World} {submission : SubmitWorkflowRequest}
    (h : request.submission w = some submission) :
    SameProblems ((streamSubmitWorkflow env submission).run (handle env) w).2
      (serve env request w).2 := by
  cases request with
  | submit request =>
    obtain rfl := Option.some.inj h
    simpa [serve, Request.program] using SameProblems.refl _
  | operatorUpsertWorkflow request =>
    simp only [Request.submission] at h
    split_ifs at h with hid
    obtain rfl := Option.some.inj h
    simp only [serve, Request.program, Program.run_map, Operator.upsertWorkflow, if_neg hid]
    exact submitAndAudit_same env _ _ _ _ _ _ _ w
  | operatorUpsertTask request =>
    obtain ⟨hworkflow, htask, record, hrecord, rfl⟩ := submission_upsertTask h
    simp only [serve, Request.program, Program.run_map, Operator.upsertTask, if_neg hworkflow,
      if_neg htask, Program.run_bind, run_getWorkflow, hrecord]
    exact submitAndAudit_same env _ _ _ _ _ _ _ w
  | operatorDeleteTask request =>
    obtain ⟨hworkflow, htask, record, hrecord, hany, rfl⟩ := submission_deleteTask h
    simp only [serve, Request.program, Program.run_map, Operator.deleteTask, if_neg hworkflow,
      if_neg htask, Program.run_bind, run_getWorkflow, hrecord, if_pos hany]
    exact submitAndAudit_same env _ _ _ _ _ _ _ w
  | _ => exact absurd h (by simp [Request.submission])

theorem serve_submission {request : Request} {w : World} {submission : SubmitWorkflowRequest}
    (h : request.submission w = some submission) :
    Submitted env submission w (serve env request w).2 :=
  (serve_submission_same env h).submitted (streamSubmitWorkflow_effect env submission w)

def withAudit (record : WorkflowRecord) : WorkflowRecord :=
  { record with summary.totalAuditEntryCount := record.summary.totalAuditEntryCount + 1 }

def auditedWorld (request : ManualInterventionRequest) (stored : WorkflowRecord)
    (w : World) : World :=
  { w with
    ticks := w.ticks + 1
    store := (w.store.writeAuditEntry request.workflowId
      { sequence := stored.summary.totalAuditEntryCount + 1
        recordedAtUnixMs := w.clock w.ticks
        actor := if request.actor = "" then kInternalControlActor else request.actor
        action := "manual_intervention"
        detail := if request.note = "" then "Manual intervention applied."
          else request.note }).upsertWorkflow
        (withAudit stored)
    feed := if request.workflowId = "" then w.feed else w.feed.publish request.workflowId }

theorem run_applyManualIntervention {request : ManualInterventionRequest} {stored : WorkflowRecord}
    {w : World} (hstored : w.store.getWorkflow request.workflowId = some stored) :
    ((applyManualIntervention env request).run (handle env) w).2 =
      ((streamReorchestrate env (interventionReorchestrateRequest request)).run (handle env)
        (auditedWorld request stored w)).2 := by
  simp only [applyManualIntervention, Program.run_bind, run_getWorkflow, hstored, run_unixTimeMsNow,
    run_writeAuditEntry, run_upsertWorkflow, run_publishWorkflowUpdate, Program.run_ite,
    Program.run_pure, apply_ite Prod.snd, ite_self]
  rfl

theorem auditedWorld_getWorkflow {request : ManualInterventionRequest} {stored : WorkflowRecord}
    {w : World} (hstored : w.store.getWorkflow request.workflowId = some stored) (id : WorkflowId) :
    (auditedWorld request stored w).store.getWorkflow id =
      if request.workflowId = id then some (withAudit stored) else w.store.getWorkflow id := by
  have hid : (withAudit stored).summary.workflowId = request.workflowId := by
    change stored.summary.workflowId = request.workflowId
    exact Store.workflowId_of_getWorkflow hstored
  simp only [auditedWorld, Store.getWorkflow_upsertWorkflow, Store.getWorkflow_writeAuditEntry, hid]

theorem auditedWorld_same {request : ManualInterventionRequest} {stored : WorkflowRecord}
    {w : World} (hstored : w.store.getWorkflow request.workflowId = some stored) :
    SameProblems w (auditedWorld request stored w) := by
  refine ⟨.update hstored ?_ (fun other hne => ?_) rfl, rfl, rfl⟩
  · rw [auditedWorld_getWorkflow hstored, if_pos rfl]
    rfl
  · rw [auditedWorld_getWorkflow hstored, if_neg hne]

theorem reachesRuntime_audited {request : ManualInterventionRequest}
    {stored record : WorkflowRecord} {w : World}
    (hstored : w.store.getWorkflow request.workflowId = some stored)
    (h : ReachesRuntime env (auditedWorld request stored w)
      (interventionReorchestrateRequest request) record) :
    record = withAudit stored ∧ ReachesRuntime env w (interventionReorchestrateRequest request)
      stored := by
  obtain ⟨hrecord, hrefusal, hready, hmiss⟩ := h
  have heq : record = withAudit stored := by
    have hget := auditedWorld_getWorkflow hstored request.workflowId
    rw [if_pos rfl] at hget
    exact (Option.some.inj (hget.symm.trans hrecord)).symm
  subst heq
  exact ⟨rfl, hstored, hrefusal, hready, hmiss⟩

theorem reachesRuntime_of_audited {request : ManualInterventionRequest} {stored : WorkflowRecord}
    {w : World} (hstored : w.store.getWorkflow request.workflowId = some stored)
    (h : ReachesRuntime env w (interventionReorchestrateRequest request) stored) :
    ReachesRuntime env (auditedWorld request stored w) (interventionReorchestrateRequest request)
      (withAudit stored) := by
  obtain ⟨-, hrefusal, hready, hmiss⟩ := h
  refine ⟨?_, hrefusal, hready, hmiss⟩
  have hget := auditedWorld_getWorkflow hstored request.workflowId
  rwa [if_pos rfl] at hget

theorem overrides_audited {request : ManualInterventionRequest} {stored : WorkflowRecord}
    {w : World} {session : App.WorkflowConfig}
    (hstored : w.store.getWorkflow request.workflowId = some stored) :
    Overrides env (auditedWorld request stored w)
      (interventionReorchestrateRequest request) session ↔
      Overrides env w (interventionReorchestrateRequest request) session := by
  -- The audit entry is not part of what a replay reads or writes.
  have hsame : (hydratedWorld env (interventionReorchestrateRequest request) (withAudit stored)
      (auditedWorld request stored w)).sessions =
      (hydratedWorld env (interventionReorchestrateRequest request) stored w).sessions := by
    rw [hydratedWorld_sessions, hydratedWorld_sessions]
    rfl
  constructor
  · rintro ⟨hauth, record, hreaches, hsession⟩
    obtain ⟨rfl, hreaches'⟩ := reachesRuntime_audited env hstored hreaches
    exact ⟨hauth, stored, hreaches', hsame ▸ hsession⟩
  · rintro ⟨hauth, record, hreaches, hsession⟩
    obtain rfl := Option.some.inj (hstored.symm.trans hreaches.1)
    exact ⟨hauth, _, reachesRuntime_of_audited env hstored hreaches, hsame ▸ hsession⟩

theorem reloads_audited {request : ManualInterventionRequest} {stored : WorkflowRecord} {w : World}
    (hstored : w.store.getWorkflow request.workflowId = some stored) :
    Reloads env (auditedWorld request stored w) (interventionReorchestrateRequest request) ↔
      Reloads env w (interventionReorchestrateRequest request) := by
  have hget := auditedWorld_getWorkflow hstored request.workflowId
  rw [if_pos rfl] at hget
  constructor
  · rintro ⟨hauth, hmem, record, hrecord, hadmitted⟩
    obtain rfl := Option.some.inj (hget.symm.trans hrecord)
    exact ⟨hauth, hmem, stored, hstored, hadmitted⟩
  · rintro ⟨hauth, hmem, record, hrecord, hadmitted⟩
    obtain rfl := Option.some.inj (hstored.symm.trans hrecord)
    exact ⟨hauth, hmem, _, hget, hadmitted⟩

/-- An intervention for an id without a record stops before the runtime. -/
theorem Reorchestrated.of_missing {request : ReorchestrateRequest} {w : World}
    (hmissing : w.store.getWorkflow request.workflowId = none) :
    Reorchestrated env request w w := by
  refine ⟨w, .refl w, .of_same rfl, .of_not_reloads env ?_, fun _ => rfl, rfl, Or.inl ⟨?_, rfl⟩⟩
  · rintro ⟨-, -, record, hrecord, -⟩
    exact absurd (hmissing.symm.trans hrecord) (by simp)
  · rintro session ⟨-, record, hrecord, -⟩
    exact absurd (hmissing.symm.trans hrecord.1) (by simp)

theorem applyManualIntervention_effect (request : ManualInterventionRequest) {w : World}
    (hkeyed : ConfigsKeyed w) :
    Reorchestrated env (interventionReorchestrateRequest request) w
      ((applyManualIntervention env request).run (handle env) w).2 := by
  cases hstored : w.store.getWorkflow request.workflowId with
  | none =>
    simp only [applyManualIntervention, Program.run_bind, run_getWorkflow, hstored,
      Program.run_pure]
    exact .of_missing env hstored
  | some stored =>
    rw [run_applyManualIntervention env hstored]
    have hsame := auditedWorld_same hstored
    obtain ⟨v, hrefreshes, hjustified, ⟨hreloads, hother⟩, hconfigs, hhydrated, hsessions⟩ :=
      streamReorchestrate_effect env (interventionReorchestrateRequest request)
        (hsame.refreshes.configsKeyed hkeyed)
    refine ⟨v, hsame.refreshes.trans hrefreshes, hsame.justified.trans hjustified hrefreshes,
      ⟨?_, ?_⟩, hconfigs, hhydrated, ?_⟩
    · intro h
      rw [hreloads ((reloads_audited env hstored).mpr h), hsame.plans.configs]
    · intro id hnot
      rw [hother id fun h => hnot ⟨(reloads_audited env hstored).mp h.1, h.2⟩, hsame.sessions]
    · rcases hsessions with ⟨hnone, hkeeps⟩ | ⟨session, hoverrides, hfound, hnew⟩
      · exact Or.inl ⟨fun session h =>
          hnone session ((overrides_audited env hstored).mpr h), hkeeps⟩
      · exact Or.inr ⟨session, (overrides_audited env hstored).mp hoverrides, hfound, hnew⟩

theorem serve_reorchestration {request : Request} {reorchestration : ReorchestrateRequest}
    {w : World} (hkeyed : ConfigsKeyed w) (h : request.reorchestration = some reorchestration) :
    Reorchestrated env reorchestration w (serve env request w).2 := by
  cases request with
  | reorchestrate request =>
    obtain rfl := Option.some.inj h
    simp only [serve, Request.program, Program.run_map]
    exact streamReorchestrate_effect env request hkeyed
  | intervene request =>
    obtain rfl := Option.some.inj h
    simp only [serve, Request.program, Program.run_map]
    exact applyManualIntervention_effect env request hkeyed
  | operatorIntervene request =>
    obtain rfl := Option.some.inj h
    simp only [serve, Request.program, Program.run_map, Operator.applyManualIntervention,
      Program.run_bind, Program.run_pure]
    exact applyManualIntervention_effect env request hkeyed
  | _ => exact absurd h (by simp [Request.reorchestration])

theorem serve_upsertTask_none {request : UpsertOperatorTaskRequest} {w : World}
    (h : (Request.operatorUpsertTask request).submission w = none) :
    (serve env (.operatorUpsertTask request) w).2 = w := by
  simp only [serve, Request.program, Program.run_map, Operator.upsertTask]
  by_cases hworkflow : request.workflowId = ""
  · rw [if_pos hworkflow]
    rfl
  · by_cases htask : request.task.id = ""
    · rw [if_neg hworkflow, if_pos htask]
      rfl
    · have hmissing : w.store.getWorkflow request.workflowId = none := by
        simpa [Request.submission, hworkflow, htask, storedConfig] using h
      simp only [if_neg hworkflow, if_neg htask, Program.run_bind, run_getWorkflow, hmissing,
        Program.run_pure]

theorem serve_deleteTask_none {request : DeleteOperatorTaskRequest} {w : World}
    (h : (Request.operatorDeleteTask request).submission w = none) :
    (serve env (.operatorDeleteTask request) w).2 = w := by
  simp only [serve, Request.program, Program.run_map, Operator.deleteTask]
  by_cases hworkflow : request.workflowId = ""
  · rw [if_pos hworkflow]
    rfl
  · by_cases htask : request.taskId = ""
    · rw [if_neg hworkflow, if_pos htask]
      rfl
    · simp only [if_neg hworkflow, if_neg htask, Program.run_bind, run_getWorkflow]
      cases hstored : w.store.getWorkflow request.workflowId with
      | none => rfl
      | some stored =>
        have hany : ¬ (stored.config.tasks.any fun t => t.id = request.taskId) = true := by
          simpa [Request.submission, hworkflow, htask, storedConfig, hstored, Option.filter] using h
        simp only [if_neg hany, Program.run_pure]

/-- Requests that neither submit nor re-orchestrate leave the configurations, and make
sessions only from them. -/
theorem serve_other {request : Request} {w : World} (hkeyed : ConfigsKeyed w)
    (hsubmission : request.submission w = none)
    (hreorchestration : request.reorchestration = none) :
    Refreshes w (serve env request w).2 ∧
      ((∀ auth, request ≠ .recover auth) →
        (serve env request w).2.hydrated = w.hydrated ∧
          (serve env request w).2.sessions = w.sessions) := by
  have hlifecycle : ∀ newState action detail lifecycle,
      Refreshes w ((lifecycleAction newState action detail lifecycle).run (handle env) w).2 ∧
      ((lifecycleAction newState action detail lifecycle).run (handle env) w).2.hydrated =
        w.hydrated ∧
      ((lifecycleAction newState action detail lifecycle).run (handle env) w).2.sessions =
        w.sessions := by
    intro newState action detail lifecycle
    obtain ⟨hplans, hsessions, hhydrated⟩ :=
      lifecycleAction_keeps env newState action detail lifecycle w
    exact ⟨.of_same hplans hsessions, hhydrated, hsessions⟩
  have hsame : ∀ w' : World, w' = w → Refreshes w w' ∧
      ((∀ auth, request ≠ .recover auth) → w'.hydrated = w.hydrated ∧
        w'.sessions = w.sessions) := by
    intro w' hw'
    subst hw'
    exact ⟨.refl w', fun _ => ⟨rfl, rfl⟩⟩
  cases request with
  | submit _ => exact absurd hsubmission (by simp [Request.submission])
  | reorchestrate _ | intervene _ | operatorIntervene _ =>
    exact absurd hreorchestration (by simp [Request.reorchestration])
  | pause request | resume request | cancel request =>
    simp only [serve, Request.program, Program.run_map]
    exact (hlifecycle _ _ _ _).imp_right fun h _ => h
  | operatorPause request | operatorResume request | operatorCancel request =>
    simp only [serve, Request.program, Program.run_map, Operator.pauseWorkflow,
      Operator.resumeWorkflow, Operator.cancelWorkflow, Program.run_bind, Program.run_pure]
    exact (hlifecycle _ _ _ _).imp_right fun h _ => h
  | recover auth =>
    simp only [serve, Request.program, Program.run_map]
    exact ⟨recoverActiveWorkflows_refreshes env auth hkeyed, fun h => absurd rfl (h auth)⟩
  | prune before =>
    refine ⟨.of_same ⟨fun _ => rfl, fun row hrow => ?_⟩ rfl, fun _ => ⟨rfl, rfl⟩⟩
    exact ((KeyedRows.mem_deleteWhere _ _ row).mp hrow).1
  | operatorUpsertWorkflow request =>
    simp only [Request.submission] at hsubmission
    split_ifs at hsubmission with hid
    apply hsame
    simp only [serve, Request.program, Program.run_map, Operator.upsertWorkflow, if_pos hid,
      Program.run_pure]
  | operatorUpsertTask request => exact hsame _ (serve_upsertTask_none env hsubmission)
  | operatorDeleteTask request => exact hsame _ (serve_deleteTask_none env hsubmission)

end Serve

end TaskOrchestrator.System
