import Mathlib.Algebra.Group.Nat.Defs
import Mathlib.Algebra.Ring.Int.Defs
import Mathlib.Data.Rat.Defs

/-!
# Messages of the runtime and control-plane API

The messages of `task_orchestration.proto` and `control_plane.proto`. A proto3
scalar without presence is a plain field with its default value, an `optional`
scalar is an `Option`, a repeated field is a list. Integers are unbounded here; the
narrowing conversions of the code are written out where they happen. A `double` is
the rational number it denotes.
-/

namespace TaskOrchestrator

set_option autoImplicit false

abbrev WorkflowId := String
abbrev TaskId := String
abbrev ActorId := String
abbrev Time := Int
abbrev Duration := Int
abbrev Priority := Int

namespace Protocol

structure AvailabilityWindow where
  start : Int := 0
  stop : Int := 0
  deriving DecidableEq

structure ActorConfig where
  id : ActorId := ""
  type : String := ""
  capacity : Option Int := none
  windows : List AvailabilityWindow := []
  capabilities : List String := []
  executionCostPerUnit : Option Rat := none
  deriving DecidableEq

structure ActorDistance where
  actorId : ActorId := ""
  distance : Int := 0
  deriving DecidableEq

structure TaskConfig where
  id : TaskId := ""
  requestedTime : Int := 0
  duration : Int := 0
  latestStartTime : Int := 0
  deadline : Int := 0
  priority : Int := 0
  demand : Option Int := none
  mandatory : Option Bool := none
  preemptible : Option Bool := none
  allowedActorTypes : List String := []
  allowedActorIds : List ActorId := []
  preferredActorIds : List ActorId := []
  requiredCapabilities : List String := []
  dependencyTaskIds : List TaskId := []
  mutuallyExclusiveTaskIds : List TaskId := []
  actorDistances : List ActorDistance := []
  tardinessCostPerUnit : Rat := 0
  earlyStartBonus : Rat := 0
  phaseDurations : List Int := []
  deriving DecidableEq

structure ObjectiveConfig where
  fulfilledTaskWeight : Option Int := none
  priorityWeight : Option Int := none
  makespanWeight : Option Int := none
  travelDistanceWeight : Option Int := none
  tardinessWeight : Option Int := none
  executionCostWeight : Option Int := none
  preferredActorWeight : Option Int := none
  deriving DecidableEq

structure OptimizationConfig where
  backend : Option String := none
  timeLimitMs : Option Int := none
  relativeGapLimit : Option Rat := none
  numSearchWorkers : Option Int := none
  allowPartialPlan : Option Bool := none
  objective : Option ObjectiveConfig := none
  deriving DecidableEq

structure WorkflowConfig where
  id : WorkflowId := ""
  optimization : Option OptimizationConfig := none
  actors : List ActorConfig := []
  tasks : List TaskConfig := []
  deriving DecidableEq

structure ClientAuthContext where
  bearerToken : String := ""
  apiKey : String := ""
  secureTransport : Bool := false
  deriving DecidableEq

structure SubmitWorkflowRequest where
  config : WorkflowConfig := {}
  auth : ClientAuthContext := {}
  replaceExisting : Option Bool := none
  idempotencyKey : Option String := none
  deriving DecidableEq

structure TaskStateOverride where
  taskId : TaskId := ""
  completed : Option Bool := none
  requestedTime : Option Int := none
  deadline : Option Int := none
  priority : Option Int := none
  pinnedActorId : Option ActorId := none
  deriving DecidableEq

structure ActorStateOverride where
  actorId : ActorId := ""
  unavailable : Option Bool := none
  capacity : Option Int := none
  deriving DecidableEq

structure ReorchestrateRequest where
  workflowId : WorkflowId := ""
  taskOverrides : List TaskStateOverride := []
  actorOverrides : List ActorStateOverride := []
  auth : ClientAuthContext := {}
  triggerReorchestration : Option Bool := none
  idempotencyKey : Option String := none
  expectedPlanVersion : Option Int := none
  deriving DecidableEq

structure Assignment where
  taskId : TaskId := ""
  actorId : ActorId := ""
  startTime : Int := 0
  endTime : Int := 0
  deriving DecidableEq

structure RunResult where
  ok : Bool := false
  capacityIssue : Bool := false
  assignments : List Assignment := []
  unfulfilledTaskIds : List TaskId := []
  errorMessage : String := ""
  deriving DecidableEq

structure RuntimeApiResponse where
  ok : Bool := false
  result : RunResult := {}
  errorMessage : String := ""
  deriving DecidableEq

inductive WorkflowEventType where
  | unspecified
  | requestRejected
  | workflowAccepted
  | runtimeOverrideApplied
  | taskCompleted
  | replanningStarted
  | taskPlanned
  | runFinished
  deriving DecidableEq

structure WorkflowEvent where
  type : WorkflowEventType := .unspecified
  workflowId : WorkflowId := ""
  taskId : TaskId := ""
  actorId : ActorId := ""
  startTime : Int := 0
  endTime : Int := 0
  detail : String := ""
  response : Option RuntimeApiResponse := none
  deriving DecidableEq

inductive WorkflowLifecycleState where
  | unspecified
  | submitted
  | planning
  | planned
  | paused
  | cancelled
  | failed
  | recovering
  deriving DecidableEq

structure WorkflowSummary where
  workflowId : WorkflowId := ""
  state : WorkflowLifecycleState := .unspecified
  createdAtUnixMs : Int := 0
  updatedAtUnixMs : Int := 0
  latestPlanVersion : Int := 0
  totalEventCount : Int := 0
  totalAuditEntryCount : Int := 0
  lastErrorMessage : String := ""
  deriving DecidableEq

structure WorkflowRecord where
  summary : WorkflowSummary := {}
  config : WorkflowConfig := {}
  latestResponse : Option RuntimeApiResponse := none
  deriving DecidableEq

structure WorkflowEventRecord where
  sequence : Int := 0
  recordedAtUnixMs : Int := 0
  event : WorkflowEvent := {}
  deriving DecidableEq

structure WorkflowPlanVersion where
  version : Int := 0
  recordedAtUnixMs : Int := 0
  response : RuntimeApiResponse := {}
  deriving DecidableEq

structure AuditEntry where
  sequence : Int := 0
  recordedAtUnixMs : Int := 0
  actor : String := ""
  action : String := ""
  detail : String := ""
  deriving DecidableEq

structure IdempotencyRecord where
  key : String := ""
  workflowId : WorkflowId := ""
  requestFingerprint : String := ""
  recordedAtUnixMs : Int := 0
  cachedResponse : RuntimeApiResponse := {}
  deriving DecidableEq

/-- `PauseWorkflowRequest`, `ResumeWorkflowRequest` and `CancelWorkflowRequest` have the same
fields. -/
structure LifecycleRequest where
  workflowId : WorkflowId := ""
  actor : String := ""
  reason : String := ""
  deriving DecidableEq

structure ManualInterventionRequest where
  workflowId : WorkflowId := ""
  actor : String := ""
  note : String := ""
  taskOverrides : List TaskStateOverride := []
  actorOverrides : List ActorStateOverride := []
  triggerReorchestration : Bool := false
  auth : ClientAuthContext := {}
  idempotencyKey : Option String := none
  expectedPlanVersion : Option Int := none
  deriving DecidableEq

structure WorkflowActionResponse where
  ok : Bool := false
  workflow : Option WorkflowRecord := none
  errorMessage : String := ""
  deriving DecidableEq

structure OperatorWorkflowActionRequest where
  workflowId : WorkflowId := ""
  auth : ClientAuthContext := {}
  actor : String := ""
  reason : String := ""
  deriving DecidableEq

structure UpsertOperatorWorkflowRequest where
  config : WorkflowConfig := {}
  auth : ClientAuthContext := {}
  actor : String := ""
  note : String := ""
  idempotencyKey : Option String := none
  deriving DecidableEq

structure UpsertOperatorTaskRequest where
  workflowId : WorkflowId := ""
  task : TaskConfig := {}
  auth : ClientAuthContext := {}
  actor : String := ""
  note : String := ""
  idempotencyKey : Option String := none
  deriving DecidableEq

structure DeleteOperatorTaskRequest where
  workflowId : WorkflowId := ""
  taskId : TaskId := ""
  auth : ClientAuthContext := {}
  actor : String := ""
  note : String := ""
  idempotencyKey : Option String := none
  deriving DecidableEq

inductive AuthMode where
  | none
  | bearerToken
  | apiKey
  deriving DecidableEq

structure SecurityConfig where
  mode : AuthMode := .none
  expectedCredential : String := ""
  requireSecureTransport : Bool := false
  deriving DecidableEq

end Protocol

end TaskOrchestrator
