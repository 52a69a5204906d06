import TaskOrchestrator.System.Runs
import TaskOrchestrator.System.PersistenceLoop

/-!
# What holds of every stored record

Every record that an operation stores is one it read, with some fields set, or one it made
from a submission. Three facts about the store follow: a record has the id of its
configuration and a plan version that is not negative, workflows that no request submits,
pauses or resumes stay cancelled, and an idempotency record stays as it is until it is pruned.
-/

namespace TaskOrchestrator.System

open Protocol Library ControlPlane

set_option autoImplicit false

def storedConfig (w : World) (id : WorkflowId) : Option WorkflowConfig :=
  (w.store.getWorkflow id).map WorkflowRecord.config

def ConfigsKeyed (w : World) : Prop := ∀ id config, storedConfig w id = some config → config.id = id

/-- Every stored record has the id of its configuration and no negative plan version. -/
def RecordsSound (w : World) : Prop :=
  ∀ id record, w.store.getWorkflow id = some record → record.config.id = id ∧
    0 ≤ record.summary.latestPlanVersion

theorem RecordsSound.keyed {w : World} (h : RecordsSound w) : ConfigsKeyed w := by
  intro id config hconfig
  obtain ⟨record, hrecord, rfl⟩ := Option.map_eq_some_iff.mp hconfig
  exact (h id record hrecord).1

def Cancelled (id : WorkflowId) (w : World) : Prop :=
  ∃ record, w.store.getWorkflow id = some record ∧ record.summary.state = .cancelled

instance (id : WorkflowId) : DecidablePred (Cancelled id) := fun w =>
  decidable_of_iff
    ((w.store.getWorkflow id).any (fun record => record.summary.state = .cancelled) = true) (by
      simp [Cancelled, Option.any_eq_true])

theorem storedConfig_of_getWorkflow {w : World} {id : WorkflowId} {record : WorkflowRecord}
    (h : w.store.getWorkflow id = some record) : storedConfig w id = some record.config := by
  simp [storedConfig, h]

/-- The part of a record that only submissions and re-orchestrations write. -/
def planPart (record : WorkflowRecord) : WorkflowConfig × Int × Option RuntimeApiResponse :=
  (record.config, record.summary.latestPlanVersion, record.latestResponse)

structure SamePlans (w w' : World) : Prop where
  records : ∀ id, (w'.store.getWorkflow id).map planPart = (w.store.getWorkflow id).map planPart
  planVersions : ∀ row ∈ w'.store.planVersions.rows, row ∈ w.store.planVersions.rows

theorem SamePlans.refl (w : World) : SamePlans w w := ⟨fun _ => rfl, fun _ h => h⟩

theorem SamePlans.trans {u v w : World} (huv : SamePlans u v) (hvw : SamePlans v w) :
    SamePlans u w :=
  ⟨fun id => (hvw.records id).trans (huv.records id), fun row h =>
    huv.planVersions row (hvw.planVersions row h)⟩

theorem SamePlans.of_store {w w' : World} (h : w'.store = w.store) : SamePlans w w' := by
  refine ⟨fun id => ?_, fun row hrow => ?_⟩
  · rw [h]
  · rw [h] at hrow
    exact hrow

theorem SamePlans.configs {w w' : World} (h : SamePlans w w') (id : WorkflowId) :
    storedConfig w' id = storedConfig w id := by
  have hfst := congrArg (Option.map Prod.fst) (h.records id)
  rw [Option.map_map, Option.map_map] at hfst
  exact hfst

theorem SamePlans.update {w w' : World} {id : WorkflowId} {stored : WorkflowRecord}
    (hstored : w.store.getWorkflow id = some stored)
    (hself : (w'.store.getWorkflow id).map planPart = some (planPart stored))
    (hother : ∀ other, id ≠ other → w'.store.getWorkflow other = w.store.getWorkflow other)
    (hplans : w'.store.planVersions = w.store.planVersions) : SamePlans w w' := by
  refine ⟨fun other => ?_, fun row hrow => hplans ▸ hrow⟩
  by_cases h : id = other
  · rw [← h, hself, hstored]
    rfl
  · rw [hother other h]

/-- What a party is not to change: workflows that are cancelled, and idempotency records. -/
structure Frozen where
  isSealed : WorkflowId → Prop
  isKept : IdempotencyRecord → Prop

/-- The record has the id of its configuration and no negative plan version, and is cancelled if
its workflow is sealed. -/
def Guarded (frozen : Frozen) (r : WorkflowRecord) : Prop :=
  r.config.id = r.summary.workflowId ∧ 0 ≤ r.summary.latestPlanVersion ∧
    (frozen.isSealed r.summary.workflowId → r.summary.state = .cancelled)

/-- Records are stored guarded and read guarded, sealed workflows get no plan version, and
no record takes the place of a kept one. -/
def guarding (frozen : Frozen) : Monitor calls Unit where
  allows _ op := match op with
    | .upsertWorkflow r => Guarded frozen r
    | .writePlanVersion workflowId _ => ¬ frozen.isSealed workflowId
    | .putIdempotencyRecord r => ∀ kept, frozen.isKept kept → r.key ≠ kept.key
    | .pruneStaleBootData _ => ∀ kept, ¬ frozen.isKept kept
    | _ => True
  replies op := match op with
    | .getWorkflow workflowId => fun reply =>
      ∀ r ∈ (reply : Option WorkflowRecord), r.summary.workflowId = workflowId ∧ Guarded frozen r
    | .listAllWorkflows => fun reply => ∀ r ∈ (reply : List WorkflowRecord), Guarded frozen r
    | .getIdempotencyRecord key => fun reply =>
      ∀ kept, frozen.isKept kept → key = kept.key → (reply : Option IdempotencyRecord) = some kept
    | _ => fun _ => True
  next _ _ _ := ()

/-- Every stored record is guarded, the sealed workflows and the kept records are stored, and
no call so far has written a plan version of a sealed workflow. -/
structure GuardedWorld (frozen : Frozen) (log : List (Op × World)) (w : World) : Prop where
  sound : RecordsSound w
  cancelled : ∀ id, frozen.isSealed id → Cancelled id w
  kept : ∀ r, frozen.isKept r → w.store.getIdempotencyRecord r.key = some r
  log : ∀ call ∈ log, ∀ id version, call.1 = .writePlanVersion id version → ¬ frozen.isSealed id

section Step

variable {frozen : Frozen} {w w' : World} {log log' : List (Op × World)}

theorem GuardedWorld.getWorkflow (hw : GuardedWorld frozen log w) {id : WorkflowId}
    {r : WorkflowRecord} (hr : w.store.getWorkflow id = some r) :
    r.summary.workflowId = id ∧ Guarded frozen r := by
  have hid := Store.workflowId_of_getWorkflow hr
  obtain ⟨hconfig, hversion⟩ := hw.sound id r hr
  refine ⟨hid, hconfig.trans hid.symm, hversion, fun hs => ?_⟩
  obtain ⟨record, hrecord, hstate⟩ := hw.cancelled _ hs
  rw [hid, hr] at hrecord
  obtain rfl := Option.some.inj hrecord
  exact hstate

/-- What `get_workflow` and `get_idempotency_record` return decides the facts about the store. -/
theorem GuardedWorld.congr (hw : GuardedWorld frozen log w)
    (hget : ∀ id, w'.store.getWorkflow id = w.store.getWorkflow id)
    (hkept : ∀ r, frozen.isKept r → w'.store.getIdempotencyRecord r.key = some r)
    (hlog : ∀ call ∈ log', ∀ id version, call.1 = .writePlanVersion id version →
      ¬ frozen.isSealed id) :
    GuardedWorld frozen log' w' where
  sound id record hrecord := hw.sound id record ((hget id).symm.trans hrecord)
  cancelled id hs := by
    obtain ⟨record, hrecord, hstate⟩ := hw.cancelled id hs
    exact ⟨record, (hget id).trans hrecord, hstate⟩
  kept := hkept
  log := hlog

theorem GuardedWorld.upsert (hw : GuardedWorld frozen log w) {r : WorkflowRecord}
    (hr : Guarded frozen r)
    (hlog : ∀ call ∈ log', ∀ id version, call.1 = .writePlanVersion id version →
      ¬ frozen.isSealed id) :
    GuardedWorld frozen log' { w with store := w.store.upsertWorkflow r } where
  sound id record hrecord := by
    simp only [Store.getWorkflow_upsertWorkflow] at hrecord
    split_ifs at hrecord with hid
    · obtain rfl := Option.some.inj hrecord
      exact ⟨hr.1.trans hid, hr.2.1⟩
    · exact hw.sound id record hrecord
  cancelled id hs := by
    unfold Cancelled
    simp only [Store.getWorkflow_upsertWorkflow]
    split_ifs with hid
    · exact ⟨r, rfl, hr.2.2 (hid ▸ hs)⟩
    · exact hw.cancelled id hs
  kept := hw.kept
  log := hlog

theorem guarding_step (env : Environment) (frozen : Frozen) :
    Program.StepPreserves (handle env) (guarding frozen)
      (fun log w _ => GuardedWorld frozen log w) := by
  rintro log w ⟨⟩ op hw hallowed
  have hlog : ∀ call ∈ log ++ [(op, (handle env op w).2)], ∀ id version,
      call.1 = .writePlanVersion id version → ¬ frozen.isSealed id := by
    intro call hcall id version heq
    rcases List.mem_append.mp hcall with hold | hnew
    · exact hw.log call hold id version heq
    · obtain rfl := List.mem_singleton.mp hnew
      obtain rfl : op = .writePlanVersion id version := heq
      exact hallowed
  constructor
  · cases op with
    | getWorkflow id => exact fun r hr => hw.getWorkflow hr
    | listAllWorkflows =>
      intro r hr
      exact (hw.getWorkflow ((Store.mem_listAllWorkflows w.store r).mp hr)).2
    | getIdempotencyRecord key =>
      rintro kept hkept rfl
      exact hw.kept kept hkept
    | _ => trivial
  · cases op with
    | upsertWorkflow r => exact hw.upsert hallowed hlog
    | putIdempotencyRecord r =>
      refine hw.congr (fun _ => rfl) (fun kept hkept => ?_) hlog
      change (w.store.putIdempotencyRecord r).getIdempotencyRecord kept.key = some kept
      rw [Store.getIdempotencyRecord_put, if_neg (hallowed kept hkept)]
      exact hw.kept kept hkept
    | pruneStaleBootData before =>
      exact hw.congr (fun _ => rfl) (fun kept hkept => absurd hkept (hallowed kept)) hlog
    | _ => exact hw.congr (fun _ => rfl) hw.kept hlog

end Step

section Operations

variable {env : Environment} {frozen : Frozen} {α : Type}

/-- The program stores guarded records only, whatever it reads. -/
def Guards (frozen : Frozen) (p : Service α) : Prop :=
  p.Obeys (guarding frozen) (fun _ _ => True) ()

theorem guards_pure (a : α) : Guards frozen (pure a : Service α) := Program.obeys_pure trivial

theorem Guards.bind {β : Type} {p : Service α} {f : α → Service β} (hp : Guards frozen p)
    (hf : ∀ a, Guards frozen (f a)) : Guards frozen (p >>= f) :=
  Program.Obeys.bind hp fun a _ _ => hf a

theorem Guards.map {β : Type} {p : Service α} (f : α → β) (hp : Guards frozen p) :
    Guards frozen (f <$> p) :=
  hp.bind fun a => guards_pure (f a)

theorem guards_ask {op : Op} {f : op.Reply → Service α} (hop : (guarding frozen).allows () op)
    (hf : ∀ r, (guarding frozen).replies op r → Guards frozen (f r)) :
    Guards frozen (ask op >>= f) :=
  Program.obeys_perform_bind hop hf

theorem guards_publish (workflowId : WorkflowId) :
    Guards frozen (publishWorkflowUpdate workflowId) :=
  (publish_stable ⟨trivial, fun _ => rfl⟩).mono fun _ _ _ => trivial

theorem guarded_open {r : WorkflowRecord} (hconfig : r.config.id = r.summary.workflowId)
    (hversion : 0 ≤ r.summary.latestPlanVersion) (hopen : ¬ frozen.isSealed r.summary.workflowId) :
    Guarded frozen r := ⟨hconfig, hversion, fun hs => absurd hs hopen⟩

def FreeKey (frozen : Frozen) (key : String) : Prop :=
  key = "" ∨ ∀ kept, frozen.isKept kept → key ≠ kept.key

theorem guards_persistEvents {p : Persisting} {record : WorkflowRecord}
    (hopen : ¬ frozen.isSealed p.workflowId) (hkey : FreeKey frozen p.idempotencyKey)
    (hid : record.summary.workflowId = p.workflowId) (hconfig : record.config.id = p.workflowId)
    (hversion : 0 ≤ record.summary.latestPlanVersion) (events : List WorkflowEvent) :
    Guards frozen (persistEvents p record events) := by
  refine (persistEvents_stable (fun op hop => ⟨?_, fun _ => rfl⟩) events).mono fun _ _ _ => trivial
  cases op with
  | writePlanVersion workflowId version =>
    obtain rfl : workflowId = p.workflowId := hop
    exact hopen
  | upsertWorkflow r =>
    obtain ⟨hrid, hrconfig, hrversion⟩ := hop
    have hrid' : r.summary.workflowId = p.workflowId := hrid.trans hid
    refine guarded_open ?_ (hversion.trans hrversion) (hrid' ▸ hopen)
    rw [hrconfig, hrid', hconfig]
  | putIdempotencyRecord r =>
    obtain ⟨hrkey, hnonempty⟩ := hop
    intro kept hkept
    rw [hrkey]
    rcases hkey with hempty | hfree
    · exact absurd hempty hnonempty
    · exact hfree kept hkept
  | pruneStaleBootData before => exact absurd hop not_false
  | _ => trivial

theorem freeKey_of_miss {key : String}
    (h : (guarding frozen).replies (.getIdempotencyRecord key) none) : FreeKey frozen key := by
  right
  intro kept hkept heq
  exact absurd (h kept hkept heq) (by simp)

theorem guards_submitAccepted {request : SubmitWorkflowRequest}
    (hopen : ¬ frozen.isSealed request.config.id)
    (hkey : FreeKey frozen (request.idempotencyKey.getD "")) :
    Guards frozen (submitAccepted env request) := by
  refine guards_ask trivial fun now _ => ?_
  have hrest : ∀ existing : Option WorkflowRecord,
      (∀ r ∈ existing, r.summary.workflowId = request.config.id ∧ Guarded frozen r) →
      Guards frozen (do
        upsertWorkflow (submittedRecord request now existing)
        publishWorkflowUpdate request.config.id
        hydratedInsert request.config.id
        let events ← runtimeSubmitWorkflow request
        persistEvents (submitPersisting env request)
          (submittedRecord request now existing) events) := by
    intro existing hexisting
    have hid := submittedRecord_workflowId request now existing fun r hr => (hexisting r hr).1
    have hversion : 0 ≤ (submittedRecord request now existing).summary.latestPlanVersion := by
      rw [submittedRecord_latestPlanVersion]
      cases existing with
      | none => exact le_refl _
      | some r => exact (hexisting r rfl).2.2.1
    refine guards_ask (guarded_open (by rw [hid]; rfl) hversion (hid ▸ hopen)) fun _ _ => ?_
    refine (guards_publish _).bind fun _ => ?_
    refine guards_ask trivial fun _ _ => ?_
    refine guards_ask trivial fun events _ => ?_
    exact guards_persistEvents hopen hkey hid rfl hversion events
  unfold existingRecord
  split_ifs
  · exact guards_ask trivial fun existing hreply => hrest existing hreply
  · exact hrest none fun r hr => absurd hr (by simp)

theorem guards_streamSubmitWorkflow {request : SubmitWorkflowRequest}
    (hopen : ¬ frozen.isSealed request.config.id) :
    Guards frozen (streamSubmitWorkflow env request) := by
  simp only [streamSubmitWorkflow]
  split_ifs with hkey
  · exact guards_submitAccepted hopen (Or.inl hkey)
  · refine guards_ask trivial fun existing hreply => ?_
    cases existing with
    | none => exact guards_submitAccepted hopen (freeKey_of_miss hreply)
    | some existing =>
      dsimp only
      split_ifs <;> exact guards_pure _

theorem guards_hydrate (auth : ClientAuthContext) (workflowId : WorkflowId)
    (config : WorkflowConfig) :
    Guards frozen (hydrate auth workflowId config) := by
  refine guards_ask trivial fun isHydrated _ => ?_
  split_ifs
  · exact guards_pure _
  · refine guards_ask trivial fun events _ => ?_
    dsimp only
    split_ifs
    · exact guards_pure _
    · exact guards_ask trivial fun _ _ => guards_pure _

/-- A cancelled record is refused before the runtime is asked. -/
theorem guards_streamReorchestrate (request : ReorchestrateRequest) :
    Guards frozen (streamReorchestrate env request) := by
  refine guards_ask trivial fun reply hreply => ?_
  cases reply with
  | none => exact guards_pure _
  | some record =>
    obtain ⟨hid, hconfig, hversion, hsealed⟩ := hreply record rfl
    dsimp only
    split
    · exact guards_pure _
    · rename_i hrefusal
      have hopen : ¬ frozen.isSealed request.workflowId := by
        intro hs
        exact (reorchestrateRefusal_eq_none.mp hrefusal).2.1 (hsealed (hid ▸ hs))
      have haccepted : FreeKey frozen (request.idempotencyKey.getD "") →
          Guards frozen (reorchestrateAccepted env request record) :=
        fun hkey => guards_ask trivial fun events _ =>
          guards_persistEvents hopen hkey hid (hconfig.trans hid) hversion events
      refine (guards_hydrate _ _ _).bind fun failure => ?_
      cases failure with
      | some response => exact guards_pure _
      | none =>
        dsimp only
        split_ifs with hkey
        · exact haccepted (Or.inl hkey)
        · refine guards_ask trivial fun existing hreply => ?_
          cases existing with
          | none => exact haccepted (freeKey_of_miss hreply)
          | some existing =>
            dsimp only
            split_ifs <;> exact guards_pure _

theorem guards_lifecycleAction {newState : WorkflowRecord → WorkflowLifecycleState}
    (action detail : String) {request : LifecycleRequest}
    (hstate : frozen.isSealed request.workflowId → ∀ r, newState r = .cancelled) :
    Guards frozen (lifecycleAction newState action detail request) := by
  refine guards_ask trivial fun reply hreply => ?_
  cases reply with
  | none => exact guards_pure _
  | some stored =>
    obtain ⟨hid, hconfig, hversion, -⟩ := hreply stored rfl
    have hnew : frozen.isSealed stored.summary.workflowId → newState stored = .cancelled :=
      fun hs => hstate (hid ▸ hs) stored
    refine guards_ask trivial fun updatedAt _ => ?_
    refine guards_ask ⟨hconfig, hversion, hnew⟩ fun _ _ => ?_
    refine guards_ask trivial fun recordedAt _ => ?_
    refine guards_ask trivial fun _ _ => ?_
    refine guards_ask ⟨hconfig, hversion, hnew⟩ fun _ _ => ?_
    exact (guards_publish _).bind fun _ => guards_pure _

theorem guards_applyManualIntervention (request : ManualInterventionRequest) :
    Guards frozen (applyManualIntervention env request) := by
  refine guards_ask trivial fun reply hreply => ?_
  cases reply with
  | none => exact guards_pure _
  | some stored =>
    refine guards_ask trivial fun recordedAt _ => ?_
    refine guards_ask trivial fun _ _ => ?_
    refine guards_ask (hreply stored rfl).2 fun _ _ => ?_
    refine (guards_publish _).bind fun _ => ?_
    refine (guards_streamReorchestrate _).bind fun events => ?_
    refine guards_ask trivial fun refreshed _ => ?_
    split_ifs <;> exact guards_pure _

theorem guards_recoverWorkflows (auth : ClientAuthContext) {workflows : List WorkflowRecord}
    (h : ∀ r ∈ workflows, Guarded frozen r) : Guards frozen (recoverWorkflows auth workflows) := by
  induction workflows with
  | nil => exact guards_pure _
  | cons workflow rest ih =>
    have hrest := ih fun r hr => h r (List.mem_cons_of_mem _ hr)
    unfold recoverWorkflows
    split_ifs
    · exact hrest
    · have hworkflow : Guards frozen (recoverWorkflow auth workflow) := by
        refine guards_ask trivial fun recordedAt _ => ?_
        refine guards_ask trivial fun _ _ => ?_
        refine guards_ask (h workflow List.mem_cons_self) fun _ _ => ?_
        refine (guards_publish _).bind fun _ => ?_
        refine guards_ask trivial fun _ _ => ?_
        exact guards_ask (f := pure) trivial fun _ _ => guards_pure _
      exact hworkflow.bind fun _ => hrest

theorem guards_appendAuditEntry (workflowId : WorkflowId) (actor action detail : String) :
    Guards frozen (Operator.appendAuditEntry workflowId actor action detail) := by
  refine guards_ask trivial fun reply hreply => ?_
  cases reply with
  | none => exact guards_pure _
  | some stored =>
    refine guards_ask trivial fun recordedAt _ => ?_
    refine guards_ask trivial fun _ _ => ?_
    refine guards_ask (hreply stored rfl).2 fun _ _ => ?_
    exact guards_publish _

theorem guards_submitAndAudit {config : WorkflowConfig} (hopen : ¬ frozen.isSealed config.id)
    (auth : ClientAuthContext) (key : Option String) (workflowId : WorkflowId)
    (actor action detail : String) :
    Guards frozen (Operator.submitAndAudit env config auth key workflowId actor action detail) := by
  refine (guards_streamSubmitWorkflow hopen).bind fun events => ?_
  exact (guards_appendAuditEntry _ _ _ _).bind fun _ => guards_pure _

theorem guards_upsertTask {request : UpsertOperatorTaskRequest}
    (hopen : ¬ frozen.isSealed request.workflowId) :
    Guards frozen (Operator.upsertTask env request) := by
  unfold Operator.upsertTask
  split
  · exact guards_pure _
  split
  · exact guards_pure _
  · refine guards_ask trivial fun reply hreply => ?_
    cases reply with
    | none => exact guards_pure _
    | some stored =>
      obtain ⟨hid, hconfig, -⟩ := hreply stored rfl
      have hnew : (Operator.upsertTaskConfig stored.config request.task).id =
          request.workflowId := by
        rw [← hid, ← hconfig]
        unfold Operator.upsertTaskConfig
        split_ifs <;> rfl
      exact guards_submitAndAudit (hnew ▸ hopen) _ _ _ _ _ _

theorem guards_deleteTask {request : DeleteOperatorTaskRequest}
    (hopen : ¬ frozen.isSealed request.workflowId) :
    Guards frozen (Operator.deleteTask env request) := by
  unfold Operator.deleteTask
  split
  · exact guards_pure _
  split
  · exact guards_pure _
  · refine guards_ask trivial fun reply hreply => ?_
    cases reply with
    | none => exact guards_pure _
    | some stored =>
      obtain ⟨hid, hconfig, -⟩ := hreply stored rfl
      dsimp only
      split
      · have hnew : (Operator.deleteTaskConfig stored.config request.taskId).id =
            request.workflowId := by
          rw [← hid, ← hconfig]
          rfl
        exact guards_submitAndAudit (hnew ▸ hopen) _ _ _ _ _ _
      · exact guards_pure _

end Operations

def Request.submittedId : Request → Option WorkflowId
  | .submit request => some request.config.id
  | .operatorUpsertWorkflow request => some request.config.id
  | .operatorUpsertTask request => some request.workflowId
  | .operatorDeleteTask request => some request.workflowId
  | _ => none

def Request.pausedOrResumedId : Request → Option WorkflowId
  | .pause request => some request.workflowId
  | .resume request => some request.workflowId
  | .operatorPause request => some request.workflowId
  | .operatorResume request => some request.workflowId
  | _ => none

section Requests

variable {env : Environment} {frozen : Frozen}

theorem Request.program_guards {request : Request}
    (hsubmits : ∀ id ∈ request.submittedId, ¬ frozen.isSealed id)
    (hpauses : ∀ id ∈ request.pausedOrResumedId, ¬ frozen.isSealed id)
    (hprunes : ∀ before, request = .prune before → ∀ kept, ¬ frozen.isKept kept) :
    Guards frozen (request.program env) := by
  have hopen : ∀ {newState : WorkflowRecord → WorkflowLifecycleState} {action detail : String}
      {lifecycle : LifecycleRequest}, ¬ frozen.isSealed lifecycle.workflowId →
      Guards frozen (lifecycleAction newState action detail lifecycle) :=
    fun h => guards_lifecycleAction _ _ fun hs => absurd hs h
  cases request with
  | submit request => exact (guards_streamSubmitWorkflow (hsubmits _ rfl)).map _
  | reorchestrate request => exact (guards_streamReorchestrate request).map _
  | pause request => exact (hopen (hpauses _ rfl)).map _
  | resume request => exact (hopen (hpauses _ rfl)).map _
  | cancel request => exact (guards_lifecycleAction _ _ fun _ _ => rfl).map _
  | intervene request => exact (guards_applyManualIntervention request).map _
  | recover auth =>
    apply Guards.map
    exact guards_ask trivial fun _ h => guards_recoverWorkflows auth h
  | operatorUpsertWorkflow request =>
    apply Guards.map
    unfold Operator.upsertWorkflow
    split
    · exact guards_pure _
    · exact guards_submitAndAudit (hsubmits _ rfl) _ _ _ _ _ _
  | operatorUpsertTask request => exact (guards_upsertTask (hsubmits _ rfl)).map _
  | operatorDeleteTask request => exact (guards_deleteTask (hsubmits _ rfl)).map _
  | operatorPause request =>
    have hpause : ¬ frozen.isSealed request.workflowId := hpauses _ rfl
    exact (Guards.bind (hopen hpause) fun _ => guards_pure _).map _
  | operatorResume request =>
    have hresume : ¬ frozen.isSealed request.workflowId := hpauses _ rfl
    exact (Guards.bind (hopen hresume) fun _ => guards_pure _).map _
  | operatorCancel request =>
    exact ((guards_lifecycleAction _ _ fun _ _ => rfl).bind fun _ => guards_pure _).map _
  | operatorIntervene request =>
    exact ((guards_applyManualIntervention request).bind fun _ => guards_pure _).map _
  | prune recordedBefore =>
    apply Guards.map
    exact guards_ask (f := pure) (hprunes _ rfl) fun _ _ => guards_pure _

/-- The request that a step serves, to its end or in part. -/
def Step.served : Step → Option Request
  | request r => some r
  | crash r _ _ => some r
  | restart _ => none

def Spares (key : String) (w : World) (request : Request) : Prop :=
  ∀ before, request = .prune before → ∀ row, w.store.idempotency.get? key = some row →
    w.store.staleIdempotencyRow before row = false

theorem getIdempotencyRecord_prune {store : Store} {before : Int} {r : IdempotencyRecord}
    (hr : store.getIdempotencyRecord r.key = some r)
    (hspared : ∀ row, store.idempotency.get? r.key = some row →
      store.staleIdempotencyRow before row = false) :
    (store.pruneStaleBootData before).getIdempotencyRecord r.key = some r := by
  obtain ⟨row, hrow, rfl⟩ := Option.map_eq_some_iff.mp hr
  have hafter : (store.pruneStaleBootData before).idempotency.get? row.record.key = some row := by
    have hmem := (KeyedRows.get?_eq_some_iff store.idempotency _ row).mp hrow
    refine (KeyedRows.get?_eq_some_iff _ _ row).mpr ⟨?_, hmem.2⟩
    simp only [Store.pruneStaleBootData, KeyedRows.mem_deleteWhere]
    exact ⟨hmem.1, hspared row hrow⟩
  rw [Store.getIdempotencyRecord, hafter]
  rfl

theorem GuardedWorld.prune {w : World} (hw : GuardedWorld frozen [] w) {before : Int}
    (hspared : ∀ r, frozen.isKept r → Spares r.key w (.prune before)) (log : List (Op × World))
    (hlog : ∀ call ∈ log, call.1 = .pruneStaleBootData before) :
    GuardedWorld frozen log { w with store := w.store.pruneStaleBootData before } := by
  refine hw.congr (fun _ => rfl) (fun r hr => ?_) ?_
  · exact getIdempotencyRecord_prune (hw.kept r hr) (hspared r hr before rfl)
  · intro call hcall id version heq
    exact absurd ((hlog call hcall).symm.trans heq) (by simp)

theorem GuardedWorld.restart {w : World} {log : List (Op × World)} (hw : GuardedWorld frozen log w)
    (bootId : String) :
    GuardedWorld frozen log (w.restart bootId) := hw.congr (fun _ => rfl) hw.kept hw.log

/-- A step keeps the configurations keyed and what is frozen, if it submits, pauses or resumes
no sealed workflow and prunes no kept record. -/
theorem step_guarded {step : Step} {w : World} (hw : GuardedWorld frozen [] w)
    (hsubmits : ∀ request ∈ step.served, ∀ id ∈ request.submittedId, ¬ frozen.isSealed id)
    (hpauses : ∀ request ∈ step.served, ∀ id ∈ request.pausedOrResumedId, ¬ frozen.isSealed id)
    (hspares : ∀ request ∈ step.served, ∀ r, frozen.isKept r → Spares r.key w request) :
    GuardedWorld frozen (step.log env w) (step.next env w) := by
  -- A prune is one call, and only the state in which it is made says what it spares.
  have hguards : ∀ request ∈ step.served, (∀ before, request ≠ .prune before) →
      Guards frozen (request.program env) := fun request hserved hprune =>
    Request.program_guards (hsubmits request hserved) (hpauses request hserved)
      fun before h => absurd h (hprune before)
  cases step with
  | restart bootId => exact hw.restart bootId
  | request request =>
    by_cases hprune : ∃ before, request = .prune before
    · obtain ⟨before, rfl⟩ := hprune
      exact hw.prune (hspares _ rfl) _ fun call hcall => by
        obtain rfl := List.mem_singleton.mp hcall
        rfl
    · obtain ⟨⟨⟩, -, hend⟩ := Program.Obeys.run (guarding_step env frozen)
        (hguards request rfl fun before h => hprune ⟨before, h⟩) hw
      rw [List.nil_append] at hend
      exact hend
  | crash request n bootId =>
    apply GuardedWorld.restart
    by_cases hprune : ∃ before, request = .prune before
    · obtain ⟨before, rfl⟩ := hprune
      cases n with
      | zero => exact hw
      | succ n =>
        have hcut : ((Request.prune before).program env).cut (handle env) (n + 1) w =
            ([(.pruneStaleBootData before, { w with store := w.store.pruneStaleBootData before })],
              { w with store := w.store.pruneStaleBootData before }) := by
          cases n <;> rfl
        simp only [Step.log]
        rw [hcut]
        exact hw.prune (hspares _ rfl) _ fun call hcall => by
          obtain rfl := List.mem_singleton.mp hcall
          rfl
    · obtain ⟨⟨⟩, hend⟩ := Program.Obeys.cut (guarding_step env frozen)
        (hguards request rfl fun before h => hprune ⟨before, h⟩) hw n
      rw [List.nil_append] at hend
      exact hend

theorem step_recordsSound {step : Step} {w : World} (hw : RecordsSound w) :
    RecordsSound (step.next env w) := by
  have hfrozen : GuardedWorld ⟨fun _ => False, fun _ => False⟩ [] w :=
    ⟨hw, fun _ h => h.elim, fun _ h => h.elim, fun _ h => absurd h (by simp)⟩
  have hnext : GuardedWorld ⟨fun _ => False, fun _ => False⟩ (step.log env w) (step.next env w) :=
    step_guarded hfrozen (fun _ _ _ _ => not_false) (fun _ _ _ _ => not_false) fun _ _ _ h => h.elim
  exact hnext.sound

theorem runWorld_recordsSound {steps : List Step} {w : World} (hw : RecordsSound w) :
    RecordsSound (runWorld env steps w) := by
  induction steps generalizing w with
  | nil => exact hw
  | cons step rest ih => exact ih (step_recordsSound hw)

theorem initial_recordsSound (bootId : String) (clock : Nat → Int) :
    RecordsSound (.initial bootId clock) := by
  intro id record hrecord
  exact absurd hrecord (by simp [World.initial, Store.initial, Store.getWorkflow])

end Requests

end TaskOrchestrator.System
