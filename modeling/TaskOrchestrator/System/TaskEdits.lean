import TaskOrchestrator.Application.Overrides
import TaskOrchestrator.System.Concurrency
import TaskOrchestrator.System.StoredRecords

/-!
# Two task edits at the same time

An operator's edit reads the whole configuration, changes one task and submits the whole
again. Two edits of different tasks both survive if each stores and submits a configuration
only while the stored one is still the one it knows. The service does not check this.
-/

namespace TaskOrchestrator.System

open Protocol Library ControlPlane
open Program (Stable obeys_stable)

set_option autoImplicit false

inductive TaskEdit where
  | upsert (request : UpsertOperatorTaskRequest)
  | delete (request : DeleteOperatorTaskRequest)

namespace TaskEdit

def workflowId : TaskEdit → WorkflowId
  | upsert request => request.workflowId
  | delete request => request.workflowId

def taskId : TaskEdit → TaskId
  | upsert request => request.task.id
  | delete request => request.taskId

def auth : TaskEdit → ClientAuthContext
  | upsert request => request.auth
  | delete request => request.auth

def program (env : Environment) : TaskEdit → Service Operator.MutationOutcome
  | upsert request => Operator.upsertTask env request
  | delete request => Operator.deleteTask env request

/-- The configuration that the edit submits after it has read one. -/
def apply : TaskEdit → WorkflowConfig → WorkflowConfig
  | upsert request, config => Operator.upsertTaskConfig config request.task
  | delete request, config => Operator.deleteTaskConfig config request.taskId

def Survives : TaskEdit → WorkflowConfig → Prop
  | upsert request, config => request.task ∈ config.tasks
  | delete request, config => ∀ task ∈ config.tasks, task.id ≠ request.taskId

def Removable : TaskEdit → WorkflowConfig → Prop
  | upsert _, _ => True
  | delete request, config => (config.tasks.filter fun task => task.id = request.taskId).length ≤ 1

instance : ∀ (edit : TaskEdit) (config : WorkflowConfig), Decidable (edit.Survives config)
  | upsert request, config => inferInstanceAs (Decidable (request.task ∈ config.tasks))
  | delete request, config =>
    inferInstanceAs (Decidable (∀ task ∈ config.tasks, task.id ≠ request.taskId))

instance : ∀ (edit : TaskEdit) (config : WorkflowConfig), Decidable (edit.Removable config)
  | upsert _, _ => inferInstanceAs (Decidable True)
  | delete _, _ => inferInstanceAs (Decidable (_ ≤ 1))

end TaskEdit

/-- Both edits are in the stored configuration, and the session is made from it. -/
def BothSurvive (first second : TaskEdit) (w : World) : Prop :=
  ∃ config, storedConfig w first.workflowId = some config ∧ first.Survives config ∧
    second.Survives config ∧ w.sessions.lookup first.workflowId = some (App.toAppWorkflow config)

/-- How far an edit is, with the configuration that it has read or stored last. The read by
which a submission looks for an existing record is not one that a configuration is based on. -/
inductive Progress where
  | start
  | read (config : WorkflowConfig)
  | stored (config : WorkflowConfig)
  | submitted (config : WorkflowConfig)
  | audit (config : WorkflowConfig)
  deriving DecidableEq

namespace Progress

def config : Progress → Option WorkflowConfig
  | start => none
  | read config => some config
  | stored config => some config
  | submitted config => some config
  | audit config => some config

/-- The configuration is stored, but the runtime does not have it yet. -/
def pending : Progress → Bool
  | stored _ => true
  | _ => false

def handed : Progress → Bool
  | submitted _ => true
  | audit _ => true
  | _ => false

/-- The edit has not stored anything yet. -/
def unchanged : Progress → Bool
  | start => true
  | read _ => true
  | _ => false

def next (progress : Progress) (op : Op) (reply : op.Reply) : Progress :=
  match progress, op, reply with
  | start, .getWorkflow _, some record => read record.config
  | read _, .upsertWorkflow record, _ => stored record.config
  | stored config, .runtimeSubmitWorkflow _, _ => submitted config
  | submitted _, .getWorkflow _, some record => audit record.config
  | progress, _, _ => progress

end Progress

/-- The call is based on the stored configuration, and is not answered from the idempotency table. -/
def Current (id : WorkflowId) (progress : Progress) (w : World) : Op → Prop
  | .upsertWorkflow _ => storedConfig w id = progress.config
  | .runtimeSubmitWorkflow _ => storedConfig w id = progress.config
  | .getIdempotencyRecord key => w.store.getIdempotencyRecord key = none
  | _ => True

instance (id : WorkflowId) (progress : Progress) (w : World) : DecidablePred (Current id progress w)
  | .upsertWorkflow _ | .runtimeSubmitWorkflow _ =>
    inferInstanceAs (Decidable (storedConfig w id = _))
  | .getIdempotencyRecord key =>
    inferInstanceAs (Decidable (w.store.getIdempotencyRecord key = none))
  | .unixTimeMsNow | .getWorkflow _ | .listAllWorkflows | .writeEvent _ _ | .writePlanVersion _ _
  | .writeAuditEntry _ _ | .putIdempotencyRecord _ | .pruneStaleBootData _ | .hydratedContains _
  | .hydratedInsert _ | .runtimeReorchestrate _ | .publish _ => inferInstanceAs (Decidable True)

/-- Every call of the two parties is current in the state in which it is made. -/
def AllCurrent (env : Environment) (id : WorkflowId) : Progress → Progress → World → Trace → Prop
  | _, _, _, [] => True
  | p, q, w, (true, op, w') :: rest =>
    Current id p w op ∧ AllCurrent env id (p.next op (handle env op w).1) q w' rest
  | p, q, w, (false, op, w') :: rest =>
    Current id q w op ∧ AllCurrent env id p (q.next op (handle env op w).1) w' rest

instance AllCurrent.decide (env : Environment) (id : WorkflowId) :
    ∀ (p q : Progress) (w : World) (trace : Trace), Decidable (AllCurrent env id p q w trace)
  | _, _, _, [] => isTrue trivial
  | p, q, w, (true, op, w') :: rest =>
    have := AllCurrent.decide env id (p.next op (handle env op w).1) q w' rest
    inferInstanceAs (Decidable (Current id p w op ∧ _))
  | p, q, w, (false, op, w') :: rest =>
    have := AllCurrent.decide env id p (q.next op (handle env op w).1) w' rest
    inferInstanceAs (Decidable (Current id q w op ∧ _))

section Lists

variable {α : Type} {p : α → Bool} {a : α}

theorem mem_updateFirst {xs : List α} (h : xs.any p = true) :
    a ∈ App.updateFirst p (fun _ => a) xs := by
  induction xs with
  | nil => exact absurd h Bool.false_ne_true
  | cons x xs ih =>
    unfold App.updateFirst
    split
    · exact List.mem_cons_self
    · rename_i hx
      refine List.mem_cons_of_mem _ (ih ?_)
      simpa [hx] using h

end Lists

namespace TaskEdit

variable {edit other : TaskEdit} {config : WorkflowConfig}

@[simp] theorem apply_id : (edit.apply config).id = config.id := by
  cases edit with
  | upsert request =>
    simp only [apply, Operator.upsertTaskConfig]
    split <;> rfl
  | delete request => rfl

theorem apply_frame {taskId : TaskId} (h : edit.taskId ≠ taskId) :
    ((edit.apply config).tasks.filter fun task => task.id = taskId) =
      config.tasks.filter fun task => task.id = taskId := by
  have hother : ∀ task : TaskConfig, decide (task.id = edit.taskId) = true →
      decide (task.id = taskId) = false := by
    intro task htask
    simpa [of_decide_eq_true htask] using h
  cases edit with
  | upsert request =>
    have hnew : decide (request.task.id = taskId) = false := by simpa [TaskEdit.taskId] using h
    simp only [apply, Operator.upsertTaskConfig]
    split
    · exact App.filter_updateFirst_other hother (fun _ _ => hnew) _
    · simp [List.filter_append, hnew]
  | delete request => exact App.filter_eraseP_other hother _

theorem survives_apply (h : edit.Removable config) : edit.Survives (edit.apply config) := by
  cases edit with
  | upsert request =>
    simp only [Survives, apply, Operator.upsertTaskConfig]
    split
    · rename_i hany
      exact mem_updateFirst hany
    · simp
  | delete request =>
    have hnone : ((config.tasks.eraseP fun task => task.id = request.taskId).filter
        fun task => task.id = request.taskId) = [] := by
      have hone : (config.tasks.filter fun task => task.id = request.taskId).length ≤ 1 := h
      rw [App.filter_eraseP_self, ← List.length_eq_zero_iff, List.length_tail]
      omega
    intro task htask hid
    have hnot := List.filter_eq_nil_iff.mp hnone task htask
    simp [hid] at hnot

theorem mem_apply_other {task : TaskConfig} (h : edit.taskId ≠ task.id) :
    task ∈ (edit.apply config).tasks ↔ task ∈ config.tasks := by
  have hframe := @apply_frame _ config _ h
  have hmem : ∀ tasks : List TaskConfig, task ∈ tasks ↔ task ∈ tasks.filter fun other =>
      other.id = task.id := by
    intro tasks
    simp
  rw [hmem, hframe, ← hmem]

theorem survives_apply_other (h : other.taskId ≠ edit.taskId) (hsurvives : edit.Survives config) :
    edit.Survives (other.apply config) := by
  cases edit with
  | upsert request => exact (mem_apply_other h).mpr hsurvives
  | delete request =>
    intro task htask hid
    have hother : other.taskId ≠ task.id := by
      rw [hid]
      exact h
    exact hsurvives task ((mem_apply_other hother).mp htask) hid

theorem removable_apply_other (h : other.taskId ≠ edit.taskId)
    (hremovable : edit.Removable config) :
    edit.Removable (other.apply config) := by
  have hframe := @apply_frame _ config _ h
  cases edit with
  | upsert request => trivial
  | delete request => exact (congrArg List.length hframe).trans_le hremovable

end TaskEdit

def TaskEdit.due (edit : TaskEdit) : Progress → Option WorkflowConfig
  | .read config => some (edit.apply config)
  | progress => progress.config

/-- An edit stores its workflow in the configuration that is due, and hands over what it stored. -/
def editing (env : Environment) (edit : TaskEdit) : Monitor calls Progress where
  allows progress op := match op with
    | .getWorkflow id => id = edit.workflowId
    | .upsertWorkflow record =>
      record.summary.workflowId = edit.workflowId ∧ edit.due progress = some record.config
    | .runtimeSubmitWorkflow request =>
      progress = .stored request.config ∧ request.config.id = edit.workflowId ∧
        authorized env request.auth = true ∧ request.replaceExisting = some true
    | .runtimeReorchestrate _ => False
    | _ => True
  replies op := match op with
    | .getWorkflow id => fun reply =>
      ∃ record, reply = some record ∧ record.summary.workflowId = id ∧ record.config.id = id
    | .getIdempotencyRecord _ => fun reply => reply = none
    | _ => fun _ => True
  next := Progress.next

section Calls

variable {env : Environment} {edit : TaskEdit} {config : WorkflowConfig} {progress : Progress}

/-- The calls that neither read nor store a record and do not reach the runtime. -/
def quiet : Op → Bool
  | .getWorkflow _ => false
  | .upsertWorkflow _ => false
  | .runtimeSubmitWorkflow _ => false
  | .runtimeReorchestrate _ => false
  | _ => true

theorem Progress.next_quiet {op : Op} (h : quiet op = true) (reply : op.Reply) :
    progress.next op reply = progress := by
  cases op <;> first | exact absurd h Bool.false_ne_true | (cases progress <;> rfl)

theorem editing_quiet {op : Op} (h : quiet op = true) : Stable (editing env edit) progress op := by
  refine ⟨?_, Progress.next_quiet h⟩
  cases op <;> first | exact absurd h Bool.false_ne_true | trivial

theorem editing_upsert {record : WorkflowRecord} (hid : record.summary.workflowId = edit.workflowId)
    (hhanded : progress.handed = true) (hconfig : progress.config = some record.config) :
    Stable (editing env edit) progress (.upsertWorkflow record) := by
  cases progress with
  | submitted _ => exact ⟨⟨hid, hconfig⟩, fun _ => rfl⟩
  | audit _ => exact ⟨⟨hid, hconfig⟩, fun _ => rfl⟩
  | start | read _ | stored _ => exact absurd hhanded Bool.false_ne_true

theorem editing_publish (id : WorkflowId) :
    (publishWorkflowUpdate id).Obeys (editing env edit)
      (fun _ progress' => progress' = progress) progress :=
  publish_stable (editing_quiet rfl)

theorem editing_submitAccepted (hid : config.id = edit.workflowId) {auth : ClientAuthContext}
    (hauth : authorized env auth = true) (key : Option String) :
    (submitAccepted env (Operator.replacementRequest (edit.apply config) auth key)).Obeys
      (editing env edit)
      (fun _ progress => progress = .submitted (edit.apply config)) (.read config) := by
  have hnew : (edit.apply config).id = edit.workflowId := by rw [TaskEdit.apply_id, hid]
  refine obeys_stable (editing_quiet rfl) fun now _ => ?_
  refine Program.obeys_perform_bind hnew fun existing hexisting => ?_
  obtain ⟨record, rfl, hrecord, -⟩ := hexisting
  have hrecordId : (submittedRecord (Operator.replacementRequest (edit.apply config) auth key) now
      (some record)).summary.workflowId = edit.workflowId := by
    rw [submittedRecord_workflowId _ _ _ fun r hr => Option.some.inj hr ▸ hrecord]
    exact hnew
  refine Program.obeys_perform_bind ⟨hrecordId, rfl⟩ fun _ _ => ?_
  refine (editing_publish _).bind ?_
  rintro _ _ rfl
  refine obeys_stable (editing_quiet rfl) fun _ _ => ?_
  refine Program.obeys_perform_bind ⟨rfl, hnew, hauth, rfl⟩ fun events _ => ?_
  refine persistEvents_stable (fun op hop => ?_) events
  cases op with
  | upsertWorkflow stored =>
    obtain ⟨hstored, hconfig, -⟩ := hop
    exact editing_upsert (hstored.trans hrecordId) rfl (congrArg some hconfig.symm)
  | unixTimeMsNow | writePlanVersion _ _ | putIdempotencyRecord _ | writeEvent _ _ | publish _ =>
    exact editing_quiet rfl
  | _ => exact absurd hop not_false

theorem editing_streamSubmitWorkflow (hid : config.id = edit.workflowId) {auth : ClientAuthContext}
    (hauth : authorized env auth = true) (key : Option String) :
    (streamSubmitWorkflow env (Operator.replacementRequest (edit.apply config) auth key)).Obeys
      (editing env edit)
      (fun _ progress => progress = .submitted (edit.apply config)) (.read config) := by
  simp only [streamSubmitWorkflow]
  split
  · exact editing_submitAccepted hid hauth key
  · refine obeys_stable (editing_quiet rfl) fun existing hexisting => ?_
    obtain rfl : existing = none := hexisting
    exact editing_submitAccepted hid hauth key

theorem editing_appendAuditEntry (actor action detail : String) :
    (Operator.appendAuditEntry edit.workflowId actor action detail).Obeys (editing env edit)
      (fun _ progress => progress.handed = true) (.submitted config) := by
  refine Program.obeys_perform_bind rfl fun reply hreply => ?_
  obtain ⟨record, rfl, hrecord, -⟩ := hreply
  refine obeys_stable (editing_quiet rfl) fun recordedAt _ => ?_
  refine obeys_stable (editing_quiet rfl) fun _ _ => ?_
  refine obeys_stable (editing_upsert hrecord rfl rfl) fun _ _ => ?_
  refine (editing_publish _).mono ?_
  rintro _ _ rfl
  rfl

theorem editing_submitAndAudit (hid : config.id = edit.workflowId) {auth : ClientAuthContext}
    (hauth : authorized env auth = true) (key : Option String) (actor action detail : String) :
    (Operator.submitAndAudit env
      (edit.apply config) auth key edit.workflowId actor action detail).Obeys
      (editing env edit) (fun _ progress => progress.handed = true) (.read config) := by
  refine (editing_streamSubmitWorkflow hid hauth key).bind ?_
  rintro events _ rfl
  exact (editing_appendAuditEntry actor action detail).bind fun _ _ h => Program.obeys_pure h

theorem editing_program (hauth : authorized env edit.auth = true) :
    (edit.program env).Obeys (editing env edit)
      (fun outcome progress => outcome.ok = true → progress.handed = true)
      .start := by
  have hrefused : ∀ {outcome : Operator.MutationOutcome} {progress : Progress}, outcome.ok = false →
      Program.Obeys (editing env edit) (fun outcome progress => outcome.ok = true →
        progress.handed = true) progress (pure outcome : Service _) := by
    intro outcome progress h
    exact Program.obeys_pure fun hok => absurd (h.symm.trans hok) Bool.false_ne_true
  cases edit with
  | upsert request =>
    simp only [TaskEdit.program, Operator.upsertTask]
    split
    · exact hrefused rfl
    split
    · exact hrefused rfl
    · refine Program.obeys_perform_bind rfl fun reply hreply => ?_
      obtain ⟨record, rfl, -, hid⟩ := hreply
      exact (@editing_submitAndAudit env (.upsert request) _ hid _ hauth _ _ _ _).mono
        fun _ _ h _ => h
  | delete request =>
    simp only [TaskEdit.program, Operator.deleteTask]
    split
    · exact hrefused rfl
    split
    · exact hrefused rfl
    · refine Program.obeys_perform_bind rfl fun reply hreply => ?_
      obtain ⟨record, rfl, -, hid⟩ := hreply
      dsimp only
      split
      · exact (@editing_submitAndAudit env (.delete request) _ hid _ hauth _ _ _ _).mono
          fun _ _ h _ => h
      · exact hrefused rfl

end Calls

/-- The edit can still be made in the configuration, or has been made in it. -/
def TaskEdit.Kept (edit : TaskEdit) (progress : Progress) (config : WorkflowConfig) : Prop :=
  if progress.unchanged then edit.Removable config else edit.Survives config

/-- The stored configuration keeps both edits. It is that of the session, if an edit has
reached the runtime and none is on its way there. -/
structure EditsKept (first second : TaskEdit) (w : World) (p q : Progress)
    (config : WorkflowConfig) : Prop where
  stored : storedConfig w first.workflowId = some config
  keyed : config.id = first.workflowId
  firstKept : first.Kept p config
  secondKept : second.Kept q config
  session : p.pending = false → q.pending = false → (p.handed || q.handed) = true →
    w.sessions.lookup first.workflowId = some (App.toAppWorkflow config)

section Both

variable {env : Environment} {first second : TaskEdit} {w : World} {p q : Progress}
variable {config : WorkflowConfig} {op : Op}

theorem EditsKept.swap (hworkflow : second.workflowId = first.workflowId)
    (h : EditsKept first second w p q config) :
    EditsKept second first w q p config where
  stored := hworkflow ▸ h.stored
  keyed := h.keyed.trans hworkflow.symm
  firstKept := h.secondKept
  secondKept := h.firstKept
  session hq hp hhanded := by
    rw [hworkflow]
    exact h.session hp hq (by rwa [Bool.or_comm])

/-- Calls that leave the stored configuration, the session and the stage of the edit. -/
theorem EditsKept.frame (h : EditsKept first second w p q config) {w' : World} {p' : Progress}
    (hstored : storedConfig w' first.workflowId = storedConfig w first.workflowId)
    (hsessions : w'.sessions = w.sessions) (hunchanged : p'.unchanged = p.unchanged)
    (hpending : p'.pending = p.pending) (hhanded : p'.handed = p.handed) :
    EditsKept first second w' p' q config where
  stored := hstored.trans h.stored
  keyed := h.keyed
  firstKept := by
    unfold TaskEdit.Kept
    rw [hunchanged]
    exact h.firstKept
  secondKept := h.secondKept
  session := by
    rw [hpending, hhanded, hsessions]
    exact h.session

theorem storedConfig_upsert {record : WorkflowRecord} {id : WorkflowId}
    (h : record.summary.workflowId = id) :
    storedConfig (handle env (.upsertWorkflow record) w).2 id = some record.config := by
  simp [storedConfig, handle, Store.getWorkflow_upsertWorkflow, h]

theorem EditsKept.first_store (htask : first.taskId ≠ second.taskId)
    (h : EditsKept first second w (.read config) q config) {record : WorkflowRecord}
    (hid : record.summary.workflowId = first.workflowId)
    (hrecord : record.config = first.apply config) :
    EditsKept first second (handle env (.upsertWorkflow record) w).2 (.stored record.config) q
      record.config where
  stored := storedConfig_upsert hid
  keyed := by rw [hrecord, TaskEdit.apply_id, h.keyed]
  firstKept := by
    rw [hrecord]
    exact TaskEdit.survives_apply h.firstKept
  secondKept := by
    have hsecond := h.secondKept
    rw [hrecord]
    unfold TaskEdit.Kept at hsecond ⊢
    split
    · rename_i hq
      rw [if_pos hq] at hsecond
      exact TaskEdit.removable_apply_other htask hsecond
    · rename_i hq
      rw [if_neg hq] at hsecond
      exact TaskEdit.survives_apply_other htask hsecond
  session hpending := absurd hpending (by simp [Progress.pending])

theorem EditsKept.submission {request : SubmitWorkflowRequest}
    (h : EditsKept first second w (.stored config) q config) (hconfig : request.config = config)
    (hauth : authorized env request.auth = true) (hreplace : request.replaceExisting = some true) :
    EditsKept first second (handle env (.runtimeSubmitWorkflow request) w).2 (.submitted config) q
      config where
  stored := h.stored
  keyed := h.keyed
  firstKept := h.firstKept
  secondKept := h.secondKept
  session _ _ _ := by
    have haccepts : runtimeAccepts env request w.sessions = true := by
      simp [runtimeAccepts, hauth, hreplace]
    simp only [handle, runtimeSubmit_sessions, haccepts, if_true]
    rw [Dictionary.lookup_assign, hconfig, h.keyed, if_pos rfl]

theorem EditsKept.step (htask : first.taskId ≠ second.taskId)
    (h : EditsKept first second w p q config) (hallows : (editing env first).allows p op)
    (hcurrent : Current first.workflowId p w op) :
    (editing env first).replies op (handle env op w).1 ∧
      ∃ config', EditsKept first second (handle env op w).2 (p.next op (handle env op w).1) q
        config' := by
  cases op with
  | getWorkflow id =>
    obtain rfl : id = first.workflowId := hallows
    obtain ⟨record, hrecord, hconfig⟩ := Option.map_eq_some_iff.mp h.stored
    have hreply : (handle env (.getWorkflow first.workflowId) w).1 = some record := hrecord
    refine ⟨⟨record, hreply, Store.workflowId_of_getWorkflow hrecord, hconfig ▸ h.keyed⟩,
      config, ?_⟩
    rw [hreply]
    refine h.frame rfl rfl ?_ ?_ ?_ <;> cases p <;> rfl
  | upsertWorkflow record =>
    obtain ⟨hid, hdue⟩ := hallows
    have hknown : p.config = some config := hcurrent.symm.trans h.stored
    refine ⟨trivial, ?_⟩
    cases p with
    | start => exact absurd hdue (by simp [TaskEdit.due, Progress.config])
    | read read =>
      obtain rfl : read = config := Option.some.inj hknown
      exact ⟨record.config, h.first_store htask hid (Option.some.inj hdue).symm⟩
    | stored known | submitted known | audit known =>
      have hsame : record.config = config := Option.some.inj (hdue.symm.trans hknown)
      refine ⟨config, h.frame ?_ rfl rfl rfl rfl⟩
      rw [storedConfig_upsert hid, hsame, h.stored]
  | runtimeSubmitWorkflow request =>
    obtain ⟨rfl, -, hauth, hreplace⟩ := hallows
    have hconfig : request.config = config := Option.some.inj (hcurrent.symm.trans h.stored)
    refine ⟨trivial, config, ?_⟩
    rw [hconfig] at h ⊢
    exact h.submission hconfig hauth hreplace
  | runtimeReorchestrate request => exact absurd hallows not_false
  | getIdempotencyRecord key =>
    refine ⟨hcurrent, config, ?_⟩
    rw [Progress.next_quiet rfl]
    exact h.frame rfl rfl rfl rfl rfl
  | _ =>
    refine ⟨trivial, config, ?_⟩
    rw [Progress.next_quiet rfl]
    exact h.frame rfl rfl rfl rfl rfl

/-- Along every interleaving of current calls the stored configuration keeps both edits. -/
theorem EditsKept.run (hworkflow : second.workflowId = first.workflowId)
    (htask : first.taskId ≠ second.taskId) (hfirst : authorized env first.auth = true)
    (hsecond : authorized env second.auth = true) {t : World} {trace : Trace}
    {a b : Operator.MutationOutcome}
    (run : Program.Interleaved (handle env) (first.program env) (second.program env) w trace a b t)
    (hcurrent : AllCurrent env first.workflowId .start .start w trace)
    (hw : EditsKept first second w .start .start config) :
    ∃ p q config', (a.ok = true → p.handed = true) ∧ (b.ok = true → q.handed = true) ∧
      EditsKept first second t p q config' := by
  let Rel := fun (_ : Trace) (u : World) (p q : Progress) (rest : Trace) =>
    AllCurrent env first.workflowId p q u rest ∧ ∃ config', EditsKept first second u p q config'
  obtain ⟨p, q, hp, hq, -, config', hend⟩ := Program.Interleaved.preserves
    (M := editing env first) (N := editing env second)
    (fun log u p q op rest ⟨hrest, config', hu⟩ hallows => by
      obtain ⟨hreply, hnext⟩ := hu.step htask hallows hrest.1
      exact ⟨hreply, hrest.2, hnext⟩)
    (fun log u p q op rest ⟨hrest, config', hu⟩ hallows => by
      obtain ⟨hreply, config'', hnext⟩ :=
        (hu.swap hworkflow).step htask.symm hallows (hworkflow.symm ▸ hrest.1)
      exact ⟨hreply, hrest.2, config'', hnext.swap hworkflow.symm⟩)
    run (editing_program hfirst) (editing_program hsecond)
    (show Rel [] w .start .start trace from ⟨hcurrent, config, hw⟩)
  exact ⟨p, q, config', hp, hq, hend⟩

end Both

/-- The two edits do not get in each other's way: each removes what it deletes, and every call
is made on the stored configuration that its edit knows. -/
structure EditsApart (env : Environment) (first second : TaskEdit) (config : WorkflowConfig)
    (w : World) (trace : Trace) : Prop where
  firstRemovable : first.Removable config
  secondRemovable : second.Removable config
  current : AllCurrent env first.workflowId .start .start w trace

/-- Two edits of different tasks of a stored workflow, both authorized and answered ok, both
survive every interleaving in which they are apart. -/
theorem task_edits_survive (env : Environment) (bootId : String) (clock : Nat → Int)
    (steps : List Step) (first second : TaskEdit) (hworkflow : second.workflowId = first.workflowId)
    (htask : first.taskId ≠ second.taskId) (hfirst : authorized env first.auth = true)
    (hsecond : authorized env second.auth = true) (config : WorkflowConfig)
    (hstored : storedConfig (runWorld env steps (.initial bootId clock)) first.workflowId =
      some config)
    (trace : Trace) (a b : Operator.MutationOutcome) (t : World)
    (run : Program.Interleaved (handle env) (first.program env) (second.program env)
      (runWorld env steps (.initial bootId clock)) trace a b t)
    (ha : a.ok = true) (hb : b.ok = true)
    (hapart : EditsApart env first second config (runWorld env steps (.initial bootId clock))
      trace) :
    BothSurvive first second t := by
  have hkeyed : config.id = first.workflowId :=
    (runWorld_recordsSound (initial_recordsSound bootId clock)).keyed _ config hstored
  obtain ⟨p, q, config', hp, hq, hend⟩ :=
    EditsKept.run hworkflow htask hfirst hsecond run hapart.current
    { stored := hstored
      keyed := hkeyed
      firstKept := hapart.firstRemovable
      secondKept := hapart.secondRemovable
      session := fun _ _ h => absurd h Bool.false_ne_true }
  have hdone : ∀ {progress : Progress}, progress.handed = true →
      progress.unchanged = false ∧ progress.pending = false := by
    intro progress h
    cases progress <;> first | exact absurd h Bool.false_ne_true | exact ⟨rfl, rfl⟩
  obtain ⟨hpChanged, hpPending⟩ := hdone (hp ha)
  obtain ⟨hqChanged, hqPending⟩ := hdone (hq hb)
  have hfirstKept := hend.firstKept
  have hsecondKept := hend.secondKept
  simp only [TaskEdit.Kept, hpChanged, hqChanged, Bool.false_eq_true, if_false]
    at hfirstKept hsecondKept
  exact ⟨config', hend.stored, hfirstKept, hsecondKept,
    hend.session hpPending hqPending (by simp [hp ha])⟩

def editA : TaskEdit := .upsert { workflowId := "w", task := { id := "a" } }

def editB : TaskEdit := .upsert { workflowId := "w", task := { id := "b" } }

/-- The second edit reads while the first one is at the runtime, and the audit entry of the
first comes after the submission of the second. -/
theorem task_edits_survive_overlapping : ∃ trace a b t,
    Program.Interleaved (handle openEnvironment) (editA.program openEnvironment)
      (editB.program openEnvironment) oneWorkflow trace a b t ∧ BothSurvive editA editB t := by
  have hfits : (Program.interleave (handle openEnvironment)
      (List.replicate 4 true ++ [false] ++ List.replicate 16 true ++ List.replicate 19 false ++
        List.replicate 5 true ++ List.replicate 5 false)
      (editA.program openEnvironment) (editB.program openEnvironment) oneWorkflow).any
      (fun r => r.2.1.ok = true ∧ r.2.2.1.ok = true ∧
        AllCurrent openEnvironment "w" .start .start oneWorkflow r.1) = true := by
    decide +kernel
  obtain ⟨trace, a, b, t, run, ha, hb, hcurrent⟩ := Program.exists_interleaved _ hfits
  exact ⟨trace, a, b, t, run, task_edits_survive openEnvironment "boot" (fun reading => reading) _
    editA editB rfl
    (by decide) rfl rfl { id := "w" } rfl trace a b t run ha hb ⟨trivial, trivial, hcurrent⟩⟩

/-- Both edits read the configuration before either stores its own: the second store drops
the task of the first edit, and both are answered ok. -/
theorem task_edit_lost : ∃ trace a b t,
    storedConfig oneWorkflow editA.workflowId = some { id := "w" } ∧
    authorized openEnvironment editA.auth = true ∧ authorized openEnvironment editB.auth = true ∧
    editB.workflowId = editA.workflowId ∧ editA.taskId ≠ editB.taskId ∧
    Program.Interleaved (handle openEnvironment) (editA.program openEnvironment)
      (editB.program openEnvironment) oneWorkflow trace a b t ∧ a.ok = true ∧ b.ok = true ∧
    ¬ BothSurvive editA editB t := by
  have hfits : (Program.interleave (handle openEnvironment)
      (true :: false :: (List.replicate 24 true ++ List.replicate 24 false))
      (editA.program openEnvironment) (editB.program openEnvironment) oneWorkflow).any
      (fun r => r.2.1.ok = true ∧ r.2.2.1.ok = true ∧
        (storedConfig r.2.2.2 "w").all (fun config => ¬ editA.Survives config) = true) = true := by
    decide +kernel
  obtain ⟨trace, a, b, t, run, ha, hb, hlost⟩ := Program.exists_interleaved _ hfits
  refine ⟨trace, a, b, t, rfl, rfl, rfl, rfl, by decide, run, ha, hb, ?_⟩
  rintro ⟨config, hconfig, hsurvives, -⟩
  have hstored : storedConfig t "w" = some config := hconfig
  simp [hstored, hsurvives] at hlost

end TaskOrchestrator.System
