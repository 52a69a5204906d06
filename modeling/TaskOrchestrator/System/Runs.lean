import TaskOrchestrator.Application.Operator

/-!
# Requests and runs

A deployment serves one request after another; between two requests, or in the middle of
one, its process may stop and be started again on the same database file. A run is a
list of such steps. Its log holds every call in order with the state it leaves.
-/

namespace TaskOrchestrator.System

open Protocol Library ControlPlane

set_option autoImplicit false

inductive Answer where
  | events (stream : List WorkflowEvent)
  | action (response : WorkflowActionResponse)
  | mutation (outcome : Operator.MutationOutcome)
  | done
  deriving DecidableEq

inductive Request where
  | submit (request : SubmitWorkflowRequest)
  | reorchestrate (request : ReorchestrateRequest)
  | pause (request : LifecycleRequest)
  | resume (request : LifecycleRequest)
  | cancel (request : LifecycleRequest)
  | intervene (request : ManualInterventionRequest)
  | recover (auth : ClientAuthContext)
  | operatorUpsertWorkflow (request : UpsertOperatorWorkflowRequest)
  | operatorUpsertTask (request : UpsertOperatorTaskRequest)
  | operatorDeleteTask (request : DeleteOperatorTaskRequest)
  | operatorPause (request : OperatorWorkflowActionRequest)
  | operatorResume (request : OperatorWorkflowActionRequest)
  | operatorCancel (request : OperatorWorkflowActionRequest)
  | operatorIntervene (request : ManualInterventionRequest)
  | prune (recordedBefore : Int)

def Request.program (env : Environment) : Request → Service Answer
  | submit request => .events <$> streamSubmitWorkflow env request
  | reorchestrate request => .events <$> streamReorchestrate env request
  | pause request => .action <$> pauseWorkflow request
  | resume request => .action <$> resumeWorkflow request
  | cancel request => .action <$> cancelWorkflow request
  | intervene request => .action <$> applyManualIntervention env request
  | recover auth => (fun _ => .done) <$> recoverActiveWorkflows auth
  | operatorUpsertWorkflow request => .mutation <$> Operator.upsertWorkflow env request
  | operatorUpsertTask request => .mutation <$> Operator.upsertTask env request
  | operatorDeleteTask request => .mutation <$> Operator.deleteTask env request
  | operatorPause request => .mutation <$> Operator.pauseWorkflow request
  | operatorResume request => .mutation <$> Operator.resumeWorkflow request
  | operatorCancel request => .mutation <$> Operator.cancelWorkflow request
  | operatorIntervene request => .mutation <$> Operator.applyManualIntervention env request
  | prune recordedBefore => (fun _ => .done) <$> pruneStaleBootData recordedBefore

def serve (env : Environment) (request : Request) (w : World) : Answer × World :=
  (request.program env).run (handle env) w

inductive Step where
  | request (request : Request)
  | restart (bootId : String)
  /-- The process stops after some calls of a request and is started again. -/
  | crash (request : Request) (callsMade : Nat) (bootId : String)

def Step.log (env : Environment) : Step → World → List (Op × World)
  | request r, w => (r.program env).steps (handle env) w
  | restart _, _ => []
  | crash r n _, w => ((r.program env).cut (handle env) n w).1

def Step.next (env : Environment) : Step → World → World
  | request r, w => (serve env r w).2
  | restart bootId, w => w.restart bootId
  | crash r n bootId, w => ((r.program env).cut (handle env) n w).2.restart bootId

def runLog (env : Environment) : List Step → World → List (Op × World)
  | [], _ => []
  | step :: rest, w => step.log env w ++ runLog env rest (step.next env w)

def runWorld (env : Environment) : List Step → World → World
  | [], w => w
  | step :: rest, w => runWorld env rest (step.next env w)

/-- Every state of a run: those between two steps and those between two calls of a step. -/
def visited (env : Environment) : List Step → World → List World
  | [], w => [w]
  | step :: rest, w => w :: (step.log env w).map Prod.snd ++ visited env rest (step.next env w)

/-- Every step of the run meets the condition in the state in which it is taken. -/
def Meets (env : Environment) (condition : World → Step → Prop) : List Step → World → Prop
  | [], _ => True
  | step :: rest, w => condition w step ∧ Meets env condition rest (step.next env w)

/-- The states between the steps of a run, the first and the last included. -/
def reached (env : Environment) : List Step → World → List World
  | [], w => [w]
  | step :: rest, w => w :: reached env rest (step.next env w)

theorem reached_preserves {env : Environment} {condition : World → Step → Prop} {Inv : World → Prop}
    (hstep : ∀ w step, Inv w → condition w step → Inv (step.next env w)) {steps : List Step}
    {w : World} (hmeets : Meets env condition steps w) (hw : Inv w) :
    ∀ v ∈ reached env steps w, Inv v := by
  induction steps generalizing w with
  | nil =>
    intro v hv
    obtain rfl := List.mem_singleton.mp hv
    exact hw
  | cons step rest ih =>
    intro v hv
    rcases List.mem_cons.mp hv with rfl | hv
    · exact hw
    · exact ih hmeets.2 (hstep w step hw hmeets.1) v hv

theorem Meets.of_invariant {env : Environment} {condition P : World → Step → Prop}
    {Inv : World → Prop} (hstep : ∀ w step, Inv w → condition w step → Inv (step.next env w))
    (hP : ∀ w step, Inv w → condition w step → P w step) {steps : List Step} {w : World}
    (hmeets : Meets env condition steps w) (hw : Inv w) : Meets env P steps w := by
  induction steps generalizing w with
  | nil => trivial
  | cons step rest ih => exact ⟨hP w step hw hmeets.1, ih hmeets.2 (hstep w step hw hmeets.1)⟩

theorem Meets.mono {env : Environment} {c d : World → Step → Prop}
    (h : ∀ w step, c w step → d w step) {steps : List Step} {w : World}
    (hmeets : Meets env c steps w) : Meets env d steps w := by
  induction steps generalizing w with
  | nil => trivial
  | cons step rest ih => exact ⟨h w step hmeets.1, ih hmeets.2⟩

/-- A deployment without authentication, with an optimizer that returns the empty plan, as
the backends do for a workflow without tasks. -/
def openEnvironment : Environment where
  security := {}
  optimize := fun _ => {}
  submitFingerprint := fun request => request.config.id
  reorchestrateFingerprint := fun request => request.workflowId

def tokenEnvironment : Environment :=
  { openEnvironment with security := { mode := .bearerToken, expectedCredential := "secret" } }

/-- A new database, and a clock that advances by one at each reading. -/
def newDatabase : World := .initial "boot" fun reading => reading

end TaskOrchestrator.System
