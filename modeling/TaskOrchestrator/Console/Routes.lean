import Mathlib.Data.Bool.AllAny
import TaskOrchestrator.Library.Percent
import TaskOrchestrator.Library.UrlPath
import TaskOrchestrator.System.OperatorRoutes

/-!
# Ids in the paths of requests

The console writes ids into its paths with `encodeURIComponent` and as they are into its bodies, and
the server compares the two without decoding the path. `fetch` resolves the dot segments of the path
before. The client of the runtime service writes the id into its target as it is, and the target
ends at the first blank. An extracted id stands between the start and the end of the path, but for
the one path on which these overlap.
-/

namespace TaskOrchestrator.Console

open Protocol Library ControlPlane Http TaskOrchestrator.System

set_option autoImplicit false

/-- The characters that `encodeURIComponent` leaves as they are. -/
def isUnreserved (c : Char) : Bool := c.isAlphanum || c ∈ "-_.!~*'()".toList

def encodeURIComponent (text : String) : List Char := Percent.encode isUnreserved text.toList

/-- A mutation of the console, with the message that its body stands for. -/
inductive ConsoleCommand where
  | upsertTask (message : UpsertOperatorTaskRequest)
  | deleteTask (message : DeleteOperatorTaskRequest)
  | pauseWorkflow (message : OperatorWorkflowActionRequest)
  | resumeWorkflow (message : OperatorWorkflowActionRequest)
  | cancelWorkflow (message : OperatorWorkflowActionRequest)
  | applyManualIntervention (message : ManualInterventionRequest)

namespace ConsoleCommand

def path : ConsoleCommand → List Char
  | upsertTask message =>
    "/v1/operator/workflows/".toList ++ encodeURIComponent message.workflowId ++ "/tasks".toList
  | deleteTask message =>
    "/v1/operator/workflows/".toList ++ encodeURIComponent message.workflowId ++ "/tasks/".toList ++
      encodeURIComponent message.taskId ++ ":delete".toList
  | pauseWorkflow message =>
    "/v1/operator/workflows/".toList ++ encodeURIComponent message.workflowId ++ ":pause".toList
  | resumeWorkflow message =>
    "/v1/operator/workflows/".toList ++ encodeURIComponent message.workflowId ++ ":resume".toList
  | cancelWorkflow message =>
    "/v1/operator/workflows/".toList ++ encodeURIComponent message.workflowId ++ ":cancel".toList
  | applyManualIntervention message =>
    "/v1/operator/workflows/".toList ++ encodeURIComponent message.workflowId ++
      ":manualIntervention".toList

/-- The target of the request, as the URL parser of `fetch` leaves the path. -/
def target (command : ConsoleCommand) : List Char := UrlPath.resolve command.path

def ids : ConsoleCommand → List String
  | upsertTask message => [message.workflowId]
  | deleteTask message => [message.workflowId, message.taskId]
  | pauseWorkflow message => [message.workflowId]
  | resumeWorkflow message => [message.workflowId]
  | cancelWorkflow message => [message.workflowId]
  | applyManualIntervention message => [message.workflowId]

def segmentIds : ConsoleCommand → List String
  | upsertTask message => [message.workflowId]
  | deleteTask message => [message.workflowId]
  | _ => []

def ReadBy (reader : MessageReader) (body : String) : ConsoleCommand → Prop
  | upsertTask message => reader.upsertTask body = some message
  | deleteTask message => body ≠ "" ∧ reader.deleteTask body = some message
  | pauseWorkflow message => body ≠ "" ∧ reader.workflowAction body = some message
  | resumeWorkflow message => body ≠ "" ∧ reader.workflowAction body = some message
  | cancelWorkflow message => body ≠ "" ∧ reader.workflowAction body = some message
  | applyManualIntervention message => reader.manualIntervention body = some message

def operation (env : Environment) (auth : ClientAuthContext → ClientAuthContext) :
    ConsoleCommand → Service Operator.MutationOutcome
  | upsertTask message => Operator.upsertTask env { message with auth := auth message.auth }
  | deleteTask message => Operator.deleteTask env { message with auth := auth message.auth }
  | pauseWorkflow message => Operator.pauseWorkflow { message with auth := auth message.auth }
  | resumeWorkflow message => Operator.resumeWorkflow { message with auth := auth message.auth }
  | cancelWorkflow message => Operator.cancelWorkflow { message with auth := auth message.auth }
  | applyManualIntervention message =>
    Operator.applyManualIntervention env { message with auth := auth message.auth }

end ConsoleCommand

structure Sends (reader : MessageReader) (request : HttpRequest)
    (command : ConsoleCommand) : Prop where
  method : request.method = .post
  target : request.target = command.target
  body : command.ReadBy reader request.body

/-- `BeastHttpWorkflowApiClient::reorchestrate`. -/
def reorchestrateTarget (message : ReorchestrateRequest) : List Char :=
  kHttpWorkflowsPathPrefix ++ message.workflowId.toList ++ kHttpReorchestratePathSuffix

/-- The characters of a target in the first line of a request. -/
def isTargetChar (c : Char) : Bool := 32 < c.toNat && c.toNat ≠ 127

/-- Which target the server's library reads when the client's library is given one, if the request
is not refused: a whole one as it is, and no more than what stands before the first blank or control
character. -/
structure DeliversTargets (deliver : List Char → Option (List Char)) : Prop where
  whole : ∀ target, (∀ c ∈ target, isTargetChar c = true) → deliver target = some target
  ends : ∀ target delivered, deliver target = some delivered →
    delivered = target.takeWhile isTargetChar

section Ends

variable {start stop path middle : List Char}

theorem overlap_of_ends (hstart : start <+: path) (hstop : stop <:+ path)
    (hoverlap : path.length < start.length + stop.length) :
    ∃ k, 0 < k ∧ k ≤ stop.length ∧ start.drop (start.length - k) = stop.take k ∧
      path = start ++ stop.drop k := by
  obtain ⟨tail, rfl⟩ := hstart
  obtain ⟨front, hfront⟩ := hstop
  rcases List.append_eq_append_iff.mp hfront with ⟨shared, rfl, rfl⟩ | ⟨gap, rfl, rfl⟩
  · simp only [List.length_append] at hoverlap
    refine ⟨shared.length, by omega, by simp, ?_, by simp⟩
    rw [List.length_append, Nat.add_sub_cancel, List.drop_left, List.take_left]
  · simp only [List.length_append] at hoverlap
    omega

def NoOverlap (start stop : List Char) : Prop :=
  ∀ k ≤ stop.length, 0 < k → start.drop (start.length - k) ≠ stop.take k

instance (start stop : List Char) : Decidable (NoOverlap start stop) :=
  inferInstanceAs
    (Decidable (∀ k ≤ stop.length, 0 < k → start.drop (start.length - k) ≠ stop.take k))

theorem length_le_of_noOverlap (h : NoOverlap start stop) (hstart : start <+: path)
    (hstop : stop <:+ path) :
    start.length + stop.length ≤ path.length := by
  by_contra hoverlap
  obtain ⟨k, hpositive, hle, hshared, -⟩ := overlap_of_ends hstart hstop (not_le.mp hoverlap)
  exact h k hle hpositive hshared

theorem between_append (hmiddle : middle ≠ [])
    (hlength : (start ++ middle ++ stop).length < 2 ^ 64) :
    between start stop (start ++ middle ++ stop) = some middle := by
  have hstart : start.isPrefixOf (start ++ middle ++ stop) = true := by
    rw [List.isPrefixOf_iff_prefix, List.append_assoc]
    exact List.prefix_append _ _
  have hstop : stop.isSuffixOf (start ++ middle ++ stop) = true := by
    rw [List.isSuffixOf_iff_suffix]
    exact List.suffix_append _ _
  have hpositive : 0 < middle.length := List.length_pos_iff.mpr hmiddle
  simp only [List.length_append] at hlength
  have hsize : (((start ++ middle ++ stop).length : Int) - start.length - stop.length) % 2 ^ 64 =
      middle.length := by
    simp only [List.length_append]
    omega
  rw [between, hstart, hstop, Bool.and_self, if_pos rfl]
  dsimp only
  rw [hsize, if_neg (by omega), List.append_assoc, List.drop_left, Int.toNat_natCast,
    List.take_left]

theorem eq_append_of_between (h : between start stop path = some middle)
    (hlength : path.length < 2 ^ 64) (hends : start.length + stop.length ≤ path.length) :
    path = start ++ middle ++ stop ∧ middle ≠ [] := by
  obtain ⟨⟨tail, rfl⟩, hstop⟩ := between_ends h
  have hsuffix : stop <:+ tail := by
    rw [List.length_append] at hends
    exact List.suffix_of_suffix_length_le hstop (List.suffix_append _ _) (by omega)
  obtain ⟨inner, rfl⟩ := hsuffix
  rw [← List.append_assoc] at h hlength ⊢
  by_cases hinner : inner = []
  · subst hinner
    rw [between] at h
    simp at h
  · rw [between_append hinner hlength, Option.some_inj] at h
    exact h ▸ ⟨rfl, hinner⟩

end Ends

section Extracted

variable {path : List Char}

theorem operatorSuffix_noOverlap (action : OperatorAction) :
    NoOverlap kHttpOperatorWorkflowsPathPrefix action.suffix := by
  cases action <;> decide

theorem extractOperatorWorkflowId_append {suffix id : List Char} (hid : id ≠ []) (hslash : '/' ∉ id)
    (hlength : (kHttpOperatorWorkflowsPathPrefix ++ id ++ suffix).length < 2 ^ 64) :
    extractOperatorWorkflowId (kHttpOperatorWorkflowsPathPrefix ++ id ++ suffix) suffix =
      some (String.ofList id) := by
  rw [extractOperatorWorkflowId, between_append hid hlength, Option.filter_some,
    if_pos (decide_eq_true hslash)]
  rfl

theorem eq_append_of_extractOperatorWorkflowId {suffix : List Char} {id : WorkflowId}
    (h : extractOperatorWorkflowId path suffix = some id) (hlength : path.length < 2 ^ 64)
    (hends : kHttpOperatorWorkflowsPathPrefix.length + suffix.length ≤ path.length) :
    path = kHttpOperatorWorkflowsPathPrefix ++ id.toList ++ suffix := by
  obtain ⟨middle, hmiddle, rfl⟩ := Option.map_eq_some_iff.mp h
  rw [String.toList_ofList]
  exact (eq_append_of_between (Option.filter_eq_some_iff.mp hmiddle).1 hlength hends).1

/-- The ids of an action stand between the start and the end of its path. -/
theorem path_of_action (action : OperatorAction) {id : WorkflowId}
    (h : extractOperatorWorkflowId path action.suffix = some id) (hlength : path.length < 2 ^ 64) :
    path = kHttpOperatorWorkflowsPathPrefix ++ id.toList ++ action.suffix := by
  obtain ⟨hstart, hstop⟩ := ends_of_routesTo h
  exact eq_append_of_extractOperatorWorkflowId h hlength
    (length_le_of_noOverlap (operatorSuffix_noOverlap action) hstart hstop)

/-- The path on which the start and the end of the task route share their slash. -/
def overlappingPath : List Char := "/v1/operator/workflows/tasks".toList

/-- The id of the task route stands between its start and end, but for one path. -/
theorem path_of_tasks_iff {id : WorkflowId} (h : extractOperatorTaskWorkflowId path = some id)
    (hlength : path.length < 2 ^ 64) :
    path = kHttpOperatorWorkflowsPathPrefix ++ id.toList ++ kHttpOperatorTasksSuffix ↔
      path ≠ overlappingPath := by
  obtain ⟨hstart, hstop⟩ := ends_of_routesTo h
  constructor
  · rintro hpath rfl
    have hlengths := congrArg List.length hpath
    simp only [List.length_append] at hlengths
    have hstartLength : kHttpOperatorWorkflowsPathPrefix.length = 23 := by decide
    have hstopLength : kHttpOperatorTasksSuffix.length = 6 := by decide
    have hpathLength : overlappingPath.length = 28 := by decide
    omega
  · intro hne
    refine eq_append_of_extractOperatorWorkflowId h hlength (not_lt.mp fun hoverlap => hne ?_)
    obtain ⟨k, hpositive, hle, hshared, hpath⟩ := overlap_of_ends hstart hstop hoverlap
    have hone : ∀ k ≤ kHttpOperatorTasksSuffix.length, 0 < k →
        kHttpOperatorWorkflowsPathPrefix.drop (kHttpOperatorWorkflowsPathPrefix.length - k) =
          kHttpOperatorTasksSuffix.take k → k = 1 := by decide
    rw [hpath, hone k hle hpositive hshared]
    decide

theorem cutAtText_eq_some {separator text before after : List Char}
    (h : cutAtText separator text = some (before, after)) :
    text = before ++ separator ++ after := by
  induction text generalizing before with
  | nil => nomatch h
  | cons c rest ih =>
    rw [cutAtText] at h
    split at h
    · rename_i hstarts
      obtain ⟨rfl, rfl⟩ := Prod.mk.inj (Option.some.inj h)
      exact (List.prefix_iff_eq_append.mp (List.isPrefixOf_iff_prefix.mp hstarts)).symm
    · obtain ⟨⟨front, back⟩, hcut, hpair⟩ := Option.map_eq_some_iff.mp h
      obtain ⟨rfl, rfl⟩ := Prod.mk.inj hpair
      rw [ih hcut]
      rfl

theorem cutAtText_append {d : Char} {separator before after : List Char} (h : d ∉ before) :
    cutAtText (d :: separator) (before ++ d :: separator ++ after) = some (before, after) := by
  induction before with
  | nil =>
    have hstarts : (d :: separator).isPrefixOf (d :: (separator ++ after)) = true := by
      rw [List.isPrefixOf_iff_prefix]
      exact List.prefix_append (d :: separator) after
    rw [List.nil_append, List.cons_append, cutAtText, if_pos hstarts]
    simp
  | cons c rest ih =>
    have hne : d ≠ c := fun heq => h (heq ▸ List.mem_cons_self)
    have hstarts : ¬(d :: separator).isPrefixOf (c :: (rest ++ d :: separator ++ after)) =
        true := by
      simp [List.isPrefixOf, hne]
    rw [List.cons_append, List.cons_append, cutAtText, if_neg hstarts, ih fun hrest =>
      h (List.mem_cons_of_mem _ hrest)]
    rfl

theorem extractOperatorTaskDeleteRoute_eq (hlength : path.length < 2 ^ 64) :
    extractOperatorTaskDeleteRoute path =
      (between kHttpOperatorWorkflowsPathPrefix kHttpOperatorDeleteTaskSuffix path).bind
        fun stripped =>
        (cutAtText "/tasks/".toList stripped).bind fun (workflowId, taskId) =>
          if workflowId = [] ∨ taskId = [] then none
          else some { workflowId := String.ofList workflowId, taskId := String.ofList taskId } := by
  rw [extractOperatorTaskDeleteRoute, between]
  split
  · rename_i hends
    rw [Bool.and_eq_true, List.isPrefixOf_iff_prefix, List.isSuffixOf_iff_suffix] at hends
    have hlengths := length_le_of_noOverlap (by decide) hends.1 hends.2
    have hsize :
        ((path.length : Int) - kHttpOperatorWorkflowsPathPrefix.length -
            kHttpOperatorDeleteTaskSuffix.length) % 2 ^ 64 =
          (path.length - kHttpOperatorWorkflowsPathPrefix.length -
            kHttpOperatorDeleteTaskSuffix.length : Nat) := by
      omega
    dsimp only
    rw [hsize, Int.toNat_natCast]
    split
    · rename_i hzero
      rw [Int.natCast_eq_zero.mp hzero, List.take_zero]
      rfl
    · rfl
  · rfl

theorem extractOperatorTaskDeleteRoute_append {workflowId taskId : List Char}
    (hworkflow : workflowId ≠ []) (htask : taskId ≠ []) (hslash : '/' ∉ workflowId)
    (hlength : (kHttpOperatorWorkflowsPathPrefix ++ (workflowId ++ "/tasks/".toList ++ taskId) ++
      kHttpOperatorDeleteTaskSuffix).length < 2 ^ 64) :
    extractOperatorTaskDeleteRoute
      (kHttpOperatorWorkflowsPathPrefix ++ (workflowId ++ "/tasks/".toList ++ taskId) ++
      kHttpOperatorDeleteTaskSuffix) =
        some { workflowId := String.ofList workflowId, taskId := String.ofList taskId } := by
  have hstripped : workflowId ++ "/tasks/".toList ++ taskId ≠ [] := by
    simp [hworkflow]
  have hcut : cutAtText "/tasks/".toList (workflowId ++ "/tasks/".toList ++ taskId) =
      some (workflowId, taskId) :=
    cutAtText_append hslash
  rw [extractOperatorTaskDeleteRoute_eq hlength, between_append hstripped hlength,
    Option.bind_some, hcut, Option.bind_some]
  exact if_neg (not_or.mpr ⟨hworkflow, htask⟩)

theorem extractOperatorTaskWorkflowId_of_delete (front : List Char) :
    extractOperatorTaskWorkflowId (front ++ kHttpOperatorDeleteTaskSuffix) = none := by
  have hsuffix : ¬kHttpOperatorTasksSuffix <:+ front ++ kHttpOperatorDeleteTaskSuffix := by
    intro htasks
    rcases List.suffix_or_suffix_of_suffix htasks
      (List.suffix_append front kHttpOperatorDeleteTaskSuffix) with h | h
    · exact absurd h (by decide)
    · exact absurd h (by decide)
  rw [extractOperatorTaskWorkflowId, extractOperatorWorkflowId, between_eq_none hsuffix]
  rfl

theorem path_of_delete {route : OperatorTaskRoute}
    (h : extractOperatorTaskDeleteRoute path = some route) (hlength : path.length < 2 ^ 64) :
    path = kHttpOperatorWorkflowsPathPrefix ++ route.workflowId.toList ++ "/tasks/".toList ++
      route.taskId.toList ++
      kHttpOperatorDeleteTaskSuffix := by
  rw [extractOperatorTaskDeleteRoute_eq hlength] at h
  obtain ⟨stripped, hstripped, h⟩ := Option.bind_eq_some_iff.mp h
  obtain ⟨⟨workflowId, taskId⟩, hcut, h⟩ := Option.bind_eq_some_iff.mp h
  dsimp only at h
  split_ifs at h with hempty
  obtain rfl := Option.some.inj h
  obtain ⟨hstart, hstop⟩ := between_ends hstripped
  have hpath :=
    (eq_append_of_between hstripped hlength (length_le_of_noOverlap (by decide) hstart hstop)).1
  rw [hpath, cutAtText_eq_some hcut]
  simp only [String.toList_ofList, List.append_assoc]

theorem path_of_target {id : WorkflowId} (h : extractWorkflowIdFromTarget path = some id)
    (hlength : path.length < 2 ^ 64) :
    path = kHttpWorkflowsPathPrefix ++ id.toList ++ kHttpReorchestratePathSuffix := by
  obtain ⟨middle, hmiddle, rfl⟩ := Option.map_eq_some_iff.mp h
  obtain ⟨hstart, hstop⟩ := between_ends hmiddle
  rw [String.toList_ofList]
  exact (eq_append_of_between hmiddle hlength (length_le_of_noOverlap (by decide) hstart hstop)).1

end Extracted

section RoundTrips

variable {env : Environment} {reader : MessageReader} {secureTransport : Bool}
variable {request : HttpRequest}

theorem encoded_not_mem {c : Char} (hc : isUnreserved c = false ∧ c ≠ '%') (text : String) :
    c ∉ encodeURIComponent text := by
  intro h
  rcases Percent.mem_encode h with hplain | hpercent | halphanum
  · exact absurd hplain (Bool.eq_false_iff.mp hc.1)
  · exact hc.2 hpercent
  · have hunreserved : isUnreserved c = true := by
      rw [isUnreserved, halphanum]
      rfl
    exact absurd hunreserved (Bool.eq_false_iff.mp hc.1)

theorem encoded_ne_nil {text : String} (h : text ≠ "") : encodeURIComponent text ≠ [] :=
  Percent.encode_ne_nil fun hnil => h (String.toList_eq_nil_iff.mp hnil)

def Unchanged (id : String) : Prop := String.ofList (encodeURIComponent id) = id

instance (id : String) : Decidable (Unchanged id) := inferInstanceAs (Decidable (_ = _))

theorem unchanged_iff {id : String} : Unchanged id ↔ ∀ c ∈ id.toList, isUnreserved c = true := by
  rw [← Percent.encode_eq_self_iff, Unchanged, encodeURIComponent]
  constructor
  · intro h
    conv_rhs => rw [← h]
    rw [String.toList_ofList]
  · intro h
    rw [h, String.ofList_toList]

theorem readForWorkflow_encoded {α : Type} {read : String → Option α}
    {workflowIdOf : α → WorkflowId} {body : String} {message : α} (hread : read body = some message)
    (hid : workflowIdOf message ≠ "") :
    readForWorkflow read workflowIdOf body
      (String.ofList (encodeURIComponent (workflowIdOf message))) =
      if Unchanged (workflowIdOf message) then .ok message else .error workflowMismatch := by
  by_cases hunchanged : Unchanged (workflowIdOf message)
  · rw [if_pos hunchanged, readForWorkflow, hread]
    exact if_neg fun hmismatch => hmismatch.2 hunchanged.symm
  · rw [if_neg hunchanged, readForWorkflow, hread]
    exact if_pos ⟨hid, fun heq => hunchanged heq.symm⟩

def refusal : ConsoleCommand → HttpResponse
  | .deleteTask _ =>
    .error .badRequest "Workflow or task id in path does not match the JSON request body."
  | _ => workflowMismatch

theorem handle_of_operatorPath (hmethod : request.method = .post) {middle : List Char}
    (htarget : request.target = "/v1/operator/workflows/".toList ++ middle)
    (hquery : '?' ∉ middle) :
    handleHttpRequest env reader secureTransport request true =
      operatorPostRoute env reader secureTransport request
        (kHttpOperatorWorkflowsPathPrefix ++ middle) := by
  have hpath : splitTarget request.target = (kHttpOperatorWorkflowsPathPrefix ++ middle, []) := by
    rw [htarget]
    refine splitTarget_of_no_query fun h => ?_
    rcases List.mem_append.mp h with h | h
    · exact absurd h (by decide)
    · exact hquery h
  rw [handleHttpRequest_of_operatorPath env reader secureTransport request hmethod
    (by rw [hpath]; exact List.prefix_append _ _), if_neg (by decide), hpath]

theorem handle_of_action (hmethod : request.method = .post) (action : OperatorAction)
    {id : WorkflowId} (hid : id ≠ "")
    (htarget : request.target = "/v1/operator/workflows/".toList ++ encodeURIComponent id ++
      action.suffix)
    (hlength : request.target.length < 2 ^ 64) :
    handleHttpRequest env reader secureTransport request true =
      action.route env reader secureTransport request (String.ofList (encodeURIComponent id)) := by
  have hquery : '?' ∉ encodeURIComponent id ++ action.suffix := by
    intro h
    rcases List.mem_append.mp h with h | h
    · exact encoded_not_mem (by decide) id h
    · cases action <;> exact absurd h (by decide)
  rw [handle_of_operatorPath hmethod (htarget.trans (List.append_assoc _ _ _)) hquery, ←
    List.append_assoc, operatorPostRoute_eq env reader secureTransport request
      (extractOperatorWorkflowId_append (encoded_ne_nil hid) (encoded_not_mem (by decide) id)
        (htarget ▸ hlength))]

theorem actionRoute_encoded {act : OperatorWorkflowActionRequest → Service Operator.MutationOutcome}
    {message : OperatorWorkflowActionRequest} (hid : message.workflowId ≠ "")
    (hbody : request.body ≠ "" ∧ reader.workflowAction request.body = some message) :
    actionRoute reader secureTransport request act
      (String.ofList (encodeURIComponent message.workflowId)) =
      if Unchanged message.workflowId then
        .mutation <$> act
        { message with auth := applyTransportAuth request secureTransport message.auth }
      else pure workflowMismatch := by
  have hread : readOptionalBody reader.workflowAction {} request.body = some message :=
    (if_neg hbody.1).trans hbody.2
  rw [actionRoute, readForWorkflow_encoded hread hid]
  by_cases hunchanged : Unchanged message.workflowId
  · simp only [if_pos hunchanged]
    rw [hunchanged]
  · simp only [if_neg hunchanged]

theorem manualInterventionRoute_encoded {message : ManualInterventionRequest}
    (hid : message.workflowId ≠ "")
    (hbody : reader.manualIntervention request.body = some message) :
    manualInterventionRoute env reader secureTransport request
      (String.ofList (encodeURIComponent message.workflowId)) =
      if Unchanged message.workflowId then
        .mutation <$> Operator.applyManualIntervention env
          { message with auth := applyTransportAuth request secureTransport message.auth }
      else pure workflowMismatch := by
  rw [manualInterventionRoute, readForWorkflow_encoded hbody hid]
  by_cases hunchanged : Unchanged message.workflowId
  · simp only [if_pos hunchanged]
    rw [hunchanged]
  · simp only [if_neg hunchanged]

theorem handle_of_tasks (hmethod : request.method = .post) {message : UpsertOperatorTaskRequest}
    (hid : message.workflowId ≠ "")
    (htarget : request.target = "/v1/operator/workflows/".toList ++
      encodeURIComponent message.workflowId ++ "/tasks".toList)
    (hlength : request.target.length < 2 ^ 64)
    (hbody : reader.upsertTask request.body = some message) :
    handleHttpRequest env reader secureTransport request true =
      if Unchanged message.workflowId then
        .mutation <$> Operator.upsertTask env
          { message with auth := applyTransportAuth request secureTransport message.auth }
      else pure workflowMismatch := by
  have hquery : '?' ∉ encodeURIComponent message.workflowId ++ "/tasks".toList := by
    intro h
    rcases List.mem_append.mp h with h | h
    · exact encoded_not_mem (by decide) _ h
    · exact absurd h (by decide)
  have hextract : extractOperatorTaskWorkflowId (kHttpOperatorWorkflowsPathPrefix ++
      (encodeURIComponent message.workflowId ++ "/tasks".toList)) =
        some (String.ofList (encodeURIComponent message.workflowId)) := by
    rw [← List.append_assoc]
    exact extractOperatorWorkflowId_append (encoded_ne_nil hid) (encoded_not_mem (by decide) _)
      (htarget ▸ hlength)
  rw [handle_of_operatorPath hmethod (htarget.trans (List.append_assoc _ _ _)) hquery,
    operatorPostRoute, hextract]
  dsimp only
  rw [tasksRoute, readForWorkflow_encoded hbody hid]
  by_cases hunchanged : Unchanged message.workflowId
  · simp only [if_pos hunchanged]
    rw [hunchanged]
  · simp only [if_neg hunchanged]

theorem handle_of_deleteRoute (hmethod : request.method = .post) {workflowId taskId : List Char}
    (hworkflow : workflowId ≠ []) (htask : taskId ≠ []) (hslash : '/' ∉ workflowId)
    (hquery : '?' ∉ workflowId ∧ '?' ∉ taskId)
    (htarget : request.target = "/v1/operator/workflows/".toList ++ workflowId ++
      "/tasks/".toList ++ taskId ++ ":delete".toList)
    (hlength : request.target.length < 2 ^ 64) :
    handleHttpRequest env reader secureTransport request true =
      deleteTaskRoute env reader secureTransport request
        { workflowId := String.ofList workflowId, taskId := String.ofList taskId } := by
  have hgroup : ∀ a b c d e : List Char, a ++ b ++ c ++ d ++ e = a ++ (b ++ c ++ d ++ e) := by simp
  have hroute : ∀ a b c d e : List Char, a ++ (b ++ c ++ d ++ e) = a ++ (b ++ c ++ d) ++ e := by
    simp
  have hnoQuery : '?' ∉ workflowId ++ "/tasks/".toList ++ taskId ++ ":delete".toList := by
    intro h
    rcases List.mem_append.mp h with h | h
    · rcases List.mem_append.mp h with h | h
      · rcases List.mem_append.mp h with h | h
        · exact hquery.1 h
        · exact absurd h (by decide)
      · exact hquery.2 h
    · exact absurd h (by decide)
  rw [htarget.trans ((hgroup _ _ _ _ _).trans (hroute _ _ _ _ _))] at hlength
  rw [handle_of_operatorPath hmethod (htarget.trans (hgroup _ _ _ _ _)) hnoQuery, hroute]
  have htasks := extractOperatorTaskWorkflowId_of_delete
    (kHttpOperatorWorkflowsPathPrefix ++ (workflowId ++ "/tasks/".toList ++ taskId))
  have hextract := extractOperatorTaskDeleteRoute_append hworkflow htask hslash hlength
  have hsuffix : ":delete".toList = kHttpOperatorDeleteTaskSuffix := rfl
  rw [hsuffix, operatorPostRoute, htasks, hextract]

theorem handle_of_delete (hmethod : request.method = .post) {message : DeleteOperatorTaskRequest}
    (hworkflow : message.workflowId ≠ "") (htask : message.taskId ≠ "")
    (htarget : request.target = (ConsoleCommand.deleteTask message).path)
    (hlength : request.target.length < 2 ^ 64)
    (hbody : request.body ≠ "" ∧ reader.deleteTask request.body = some message) :
    handleHttpRequest env reader secureTransport request true =
      if Unchanged message.workflowId ∧ Unchanged message.taskId then
        .mutation <$> Operator.deleteTask env
          { message with auth := applyTransportAuth request secureTransport message.auth }
      else pure (refusal (.deleteTask message)) := by
  have hread : readOptionalBody reader.deleteTask {} request.body = some message :=
    (if_neg hbody.1).trans hbody.2
  rw [handle_of_deleteRoute hmethod (encoded_ne_nil hworkflow) (encoded_ne_nil htask)
    (encoded_not_mem (by decide) _)
    ⟨encoded_not_mem (by decide) _, encoded_not_mem (by decide) _⟩ htarget hlength,
      deleteTaskRoute, hread]
  dsimp only
  by_cases hunchanged : Unchanged message.workflowId ∧ Unchanged message.taskId
  · rw [if_pos hunchanged, hunchanged.1, hunchanged.2, if_neg (by simp)]
  · rw [if_neg hunchanged, if_pos]
    · rfl
    · rcases not_and_or.mp hunchanged with h | h
      · exact Or.inl ⟨hworkflow, fun heq => h heq.symm⟩
      · exact Or.inr ⟨htask, fun heq => h heq.symm⟩

theorem resolve_workflow {segment next : List Char} {rest : List (List Char)}
    (hslash : ∀ other ∈ segment :: next :: rest, '/' ∉ other)
    (hdots : ∀ other ∈ next :: rest, UrlPath.isDot other = false) :
    UrlPath.resolve
    (UrlPath.join
      ("v1".toList :: "operator".toList :: "workflows".toList :: segment :: next :: rest)) =
      UrlPath.join (if UrlPath.isSingleDot segment then
          "v1".toList :: "operator".toList :: "workflows".toList :: next :: rest
        else if UrlPath.isDoubleDot segment then "v1".toList :: "operator".toList :: next :: rest
        else "v1".toList :: "operator".toList :: "workflows".toList :: segment :: next ::
        rest) := by
  have hall :
    ∀ other ∈ "v1".toList :: "operator".toList :: "workflows".toList :: segment :: next :: rest,
      '/' ∉ other := by
    intro other hother
    rw [List.mem_cons, List.mem_cons, List.mem_cons] at hother
    rcases hother with rfl | rfl | rfl | hother
    · decide
    · decide
    · decide
    · exact hslash other hother
  have hself : ∀ done, UrlPath.resolveSegments done (next :: rest) = done.reverse ++ next :: rest :=
    UrlPath.resolveSegments_eq_self hdots
  rw [UrlPath.resolve_join hall, UrlPath.resolveSegments_cons (by decide),
    UrlPath.resolveSegments_cons (by decide), UrlPath.resolveSegments_cons (by decide)]
  split_ifs with hsingle hdouble
  · rw [UrlPath.resolveSegments_single hsingle, hself]
    rfl
  · rw [UrlPath.resolveSegments_double hdouble, hself]
    rfl
  · have hnone : UrlPath.isDot segment = false := by
      rw [UrlPath.isDot_eq, Bool.eq_false_iff.mpr hsingle, Bool.eq_false_iff.mpr hdouble]
      rfl
    rw [UrlPath.resolveSegments_cons hnone, hself]
    rfl

theorem not_isDot_of_colon {segment : List Char} (h : ':' ∈ segment) :
    UrlPath.isDot segment = false := by
  rw [Bool.eq_false_iff]
  intro hdot
  exact absurd (UrlPath.mem_of_isDot hdot h) (by decide)

theorem slash_free {segments : List (List Char)} (h : ∀ segment ∈ segments, '/' ∉ segment) :
    ∀ segment ∈ "v1".toList :: "operator".toList :: "workflows".toList :: segments, '/' ∉
    segment := by
  intro segment hsegment
  rw [List.mem_cons, List.mem_cons, List.mem_cons] at hsegment
  rcases hsegment with rfl | rfl | rfl | hsegment
  · decide
  · decide
  · decide
  · exact h segment hsegment

theorem operatorPath_start :
    "/v1/operator/workflows/".toList = "/v1/operator/workflows".toList ++ ['/'] := rfl

theorem tasks_start : "/tasks".toList = '/' :: "tasks".toList := rfl

theorem tasks_between : "/tasks/".toList = '/' :: ("tasks".toList ++ ['/']) := rfl

theorem operatorPath_eq_join (segments : List (List Char)) :
    UrlPath.join ("v1".toList :: "operator".toList :: "workflows".toList :: segments) =
      "/v1/operator/workflows".toList ++ UrlPath.join segments := rfl

theorem resolve_action (action : OperatorAction) (id : String) :
    UrlPath.resolve ("/v1/operator/workflows/".toList ++ encodeURIComponent id ++ action.suffix) =
      "/v1/operator/workflows/".toList ++ encodeURIComponent id ++ action.suffix := by
  have hjoin : "/v1/operator/workflows/".toList ++ encodeURIComponent id ++ action.suffix =
      UrlPath.join ["v1".toList, "operator".toList, "workflows".toList, encodeURIComponent id ++
        action.suffix] := by
    rw [operatorPath_eq_join, UrlPath.join, List.flatMap_singleton, operatorPath_start,
      List.append_assoc, List.append_assoc, List.singleton_append]
  have hslash : '/' ∉ encodeURIComponent id ++ action.suffix := by
    intro h
    rcases List.mem_append.mp h with h | h
    · exact encoded_not_mem (by decide) id h
    · cases action <;> exact absurd h (by decide)
  have hcolon : ':' ∈ encodeURIComponent id ++ action.suffix := by
    apply List.mem_append_right
    cases action <;> decide
  rw [hjoin, UrlPath.resolve_join (slash_free (List.forall_mem_singleton.mpr hslash)),
    UrlPath.resolveSegments_eq_self]
  · rfl
  · intro segment hsegment
    simp only [List.mem_cons, List.not_mem_nil, or_false] at hsegment
    rcases hsegment with rfl | rfl | rfl | rfl
    · decide
    · decide
    · decide
    · exact not_isDot_of_colon hcolon

theorem taskSegments {segment : List Char} (taskId : String) :
    segment ∈ ["tasks".toList, encodeURIComponent taskId ++ ":delete".toList] →
      '/' ∉ segment ∧ UrlPath.isDot segment = false := by
  intro hsegment
  simp only [List.mem_cons, List.not_mem_nil, or_false] at hsegment
  rcases hsegment with rfl | rfl
  · decide
  · refine ⟨fun h => ?_, not_isDot_of_colon (List.mem_append_right _ (by decide))⟩
    rcases List.mem_append.mp h with h | h
    · exact encoded_not_mem (by decide) taskId h
    · exact absurd h (by decide)

theorem upsertTask_path (message : UpsertOperatorTaskRequest) :
    (ConsoleCommand.upsertTask message).path =
      UrlPath.join ("v1".toList :: "operator".toList :: "workflows".toList ::
      encodeURIComponent message.workflowId :: ["tasks".toList]) := by
  have hgroup :
    ∀ a b c : List Char, a ++ ['/'] ++ b ++ '/' :: c = a ++ ('/' :: b ++ '/' :: c) := by simp
  rw [operatorPath_eq_join, UrlPath.join, List.flatMap_cons,
    List.flatMap_singleton, ← hgroup, ← operatorPath_start, ← tasks_start]
  rfl

theorem deleteTask_path (message : DeleteOperatorTaskRequest) :
    (ConsoleCommand.deleteTask message).path =
      UrlPath.join ("v1".toList :: "operator".toList :: "workflows".toList ::
      encodeURIComponent message.workflowId ::
        ["tasks".toList, encodeURIComponent message.taskId ++ ":delete".toList]) := by
  have hgroup : ∀ a b c d e : List Char, a ++ ['/'] ++ b ++ ('/' :: (c ++ ['/'])) ++ d ++ e =
      a ++ ('/' :: b ++ ('/' :: c ++ '/' :: (d ++ e))) := by simp
  rw [operatorPath_eq_join, UrlPath.join, List.flatMap_cons, List.flatMap_cons,
    List.flatMap_singleton, ← hgroup, ← operatorPath_start, ← tasks_between]
  rfl

theorem upsertTask_target (message : UpsertOperatorTaskRequest) :
    (ConsoleCommand.upsertTask message).target =
      if UrlPath.isSingleDot (encodeURIComponent message.workflowId) then overlappingPath
      else if UrlPath.isDoubleDot (encodeURIComponent message.workflowId) then
        "/v1/operator/tasks".toList
      else (ConsoleCommand.upsertTask message).path := by
  have htasks : ∀ segment ∈ ["tasks".toList], '/' ∉ segment ∧ UrlPath.isDot segment = false := by
    decide
  rw [ConsoleCommand.target, upsertTask_path, resolve_workflow]
  · split_ifs <;> rfl
  · exact List.forall_mem_cons.mpr
      ⟨encoded_not_mem (by decide) _, fun segment h => (htasks segment h).1⟩
  · exact fun segment h => (htasks segment h).2

theorem deleteTask_target (message : DeleteOperatorTaskRequest) :
    (ConsoleCommand.deleteTask message).target =
      if UrlPath.isSingleDot (encodeURIComponent message.workflowId) then
        kHttpOperatorWorkflowsPathPrefix ++
          ("tasks/".toList ++ encodeURIComponent message.taskId) ++
          kHttpOperatorDeleteTaskSuffix
      else if UrlPath.isDoubleDot (encodeURIComponent message.workflowId) then
        "/v1/operator/tasks".toList ++
          '/' :: (encodeURIComponent message.taskId ++ ":delete".toList)
      else (ConsoleCommand.deleteTask message).path := by
  rw [ConsoleCommand.target, deleteTask_path, resolve_workflow]
  · split_ifs
    · rw [operatorPath_eq_join, UrlPath.join, List.flatMap_cons, List.flatMap_singleton,
        List.append_assoc, List.append_assoc]
      rfl
    · rw [UrlPath.join, List.flatMap_cons, List.flatMap_cons, List.flatMap_cons,
        List.flatMap_singleton]
      rfl
    · rfl
  · exact List.forall_mem_cons.mpr
      ⟨encoded_not_mem (by decide) _, fun segment h => (taskSegments _ h).1⟩
  · exact fun segment h => (taskSegments _ h).2

theorem operatorPostRoute_of_not_prefix {path : List Char}
    (h : ¬kHttpOperatorWorkflowsPathPrefix <+: path) :
    operatorPostRoute env reader secureTransport request path = pure unsupportedOperatorRoute := by
  have hfalse : kHttpOperatorWorkflowsPathPrefix.isPrefixOf path = false :=
    Bool.eq_false_iff.mpr fun htrue => h (List.isPrefixOf_iff_prefix.mp htrue)
  have hbetween : ∀ suffix, between kHttpOperatorWorkflowsPathPrefix suffix path = none :=
    fun suffix => by
    rw [between, hfalse, Bool.false_and, if_neg Bool.false_ne_true]
  have hextract : ∀ suffix, extractOperatorWorkflowId path suffix = none := fun suffix => by
    rw [extractOperatorWorkflowId, hbetween]
    rfl
  have hdelete : extractOperatorTaskDeleteRoute path = none := by
    rw [extractOperatorTaskDeleteRoute, hfalse, Bool.false_and, if_neg Bool.false_ne_true]
  rw [operatorPostRoute, extractOperatorTaskWorkflowId, hextract, hdelete]
  dsimp only
  rw [hextract, hextract, hextract, hextract]

theorem handle_of_unknownPath (hmethod : request.method = .post) (hquery : '?' ∉ request.target)
    (hoperator : "/v1/operator".toList <+: request.target)
    (hupsert : request.target ≠ kHttpOperatorWorkflowsPath)
    (hroute : operatorPostRoute env reader secureTransport request request.target =
      pure unsupportedOperatorRoute) :
    handleHttpRequest env reader secureTransport request true = pure unsupportedOperatorRoute := by
  have hget : ¬(request.method = .get ∧ request.target = kHttpOperatorDashboardPath) := fun h =>
    absurd (hmethod.symm.trans h.1) (by decide)
  rw [handleHttpRequest, splitTarget_of_no_query hquery]
  dsimp only
  rw [if_pos (List.isPrefixOf_iff_prefix.mpr hoperator), handleOperatorHttpRequest,
    if_neg (by decide), if_neg hget, if_neg (fun h => hupsert h.2), if_pos hmethod, hroute]

theorem operatorPostRoute_of_deleteAlone (taskId : String)
    (hlength : (kHttpOperatorWorkflowsPathPrefix ++
      ("tasks/".toList ++ encodeURIComponent taskId) ++ kHttpOperatorDeleteTaskSuffix).length <
      2 ^ 64) :
    operatorPostRoute env reader secureTransport request
      (kHttpOperatorWorkflowsPathPrefix ++ ("tasks/".toList ++ encodeURIComponent taskId) ++
        kHttpOperatorDeleteTaskSuffix) = pure unsupportedOperatorRoute := by
  have hcut : cutAtText "/tasks/".toList ("tasks/".toList ++ encodeURIComponent taskId) = none := by
    rw [Option.eq_none_iff_forall_ne_some]
    rintro ⟨before, behind⟩ hcut
    -- The text has one slash only.
    have hslashes := congrArg (List.count '/') (cutAtText_eq_some hcut)
    have hencoded : (encodeURIComponent taskId).count '/' = 0 :=
      List.count_eq_zero.mpr (encoded_not_mem (by decide) _)
    have hone : ("tasks/".toList).count '/' = 1 := by decide
    have htwo : ("/tasks/".toList).count '/' = 2 := by decide
    rw [List.count_append, List.count_append, List.count_append, hencoded, hone, htwo] at hslashes
    omega
  have hstripped : "tasks/".toList ++ encodeURIComponent taskId ≠ [] := fun h =>
    absurd (List.append_eq_nil_iff.mp h).1 (by decide)
  have hdelete : extractOperatorTaskDeleteRoute (kHttpOperatorWorkflowsPathPrefix ++
      ("tasks/".toList ++ encodeURIComponent taskId) ++ kHttpOperatorDeleteTaskSuffix) = none := by
    rw [extractOperatorTaskDeleteRoute_eq hlength, between_append hstripped hlength,
      Option.bind_some, hcut]
    rfl
  have hother : ∀ suffix : List Char, (¬kHttpOperatorDeleteTaskSuffix <:+ suffix ∧
      ¬suffix <:+ kHttpOperatorDeleteTaskSuffix) →
      extractOperatorWorkflowId (kHttpOperatorWorkflowsPathPrefix ++
        ("tasks/".toList ++ encodeURIComponent taskId) ++ kHttpOperatorDeleteTaskSuffix) suffix =
          none := by
    intro suffix hexcludes
    rw [extractOperatorWorkflowId, between_eq_none]
    · rfl
    · intro hsuffix
      rcases List.suffix_or_suffix_of_suffix (List.suffix_append _ kHttpOperatorDeleteTaskSuffix)
        hsuffix with h | h
      · exact hexcludes.1 h
      · exact hexcludes.2 h
  rw [operatorPostRoute, extractOperatorTaskWorkflowId_of_delete, hdelete]
  dsimp only
  rw [hother _ (by decide), hother _ (by decide), hother _ (by decide), hother _ (by decide)]

theorem handle_of_dots {command : ConsoleCommand} (h : Sends reader request command)
    (hdot : ∃ id ∈ command.segmentIds, UrlPath.isDot (encodeURIComponent id) = true)
    (hlength : request.target.length < 2 ^ 64) :
    ∃ status text, handleHttpRequest env reader secureTransport request true =
      pure (.error status text) := by
  obtain ⟨hmethod, htarget, hbody⟩ := h
  obtain ⟨id, hid, hdot⟩ := hdot
  have hcases := UrlPath.isDot_eq (encodeURIComponent id) ▸ hdot
  cases command with
  | upsertTask message =>
    obtain rfl := List.mem_singleton.mp hid
    rw [upsertTask_target] at htarget
    by_cases hsingle : UrlPath.isSingleDot (encodeURIComponent message.workflowId) = true
    · rw [if_pos hsingle] at htarget
      have hroute :=
        @handle_of_operatorPath env reader secureTransport request hmethod "tasks".toList htarget
          (by decide)
      have hmismatch : message.workflowId ≠ "" ∧ message.workflowId ≠ "tasks" := by
        constructor
        · intro hempty
          rw [hempty] at hdot
          exact absurd hdot (by decide)
        · intro htasks
          rw [htasks] at hdot
          exact absurd hdot (by decide)
      have hread : reader.upsertTask request.body = some message := hbody
      refine ⟨.badRequest, "workflow_id in path does not match workflow_id in body.",
        hroute.trans ?_⟩
      have hextract : extractOperatorTaskWorkflowId
          (kHttpOperatorWorkflowsPathPrefix ++ "tasks".toList) =
          some "tasks" := by decide
      rw [operatorPostRoute, hextract]
      dsimp only
      rw [tasksRoute, readForWorkflow, hread]
      dsimp only
      rw [if_pos hmismatch]
      rfl
    · rw [if_neg hsingle, if_pos ((Bool.or_eq_true _ _ ▸ hcases).resolve_left hsingle)] at htarget
      refine ⟨.notFound, _, handle_of_unknownPath hmethod ?_ ?_ ?_ ?_⟩
      all_goals rw [htarget]
      · decide
      · decide
      · decide
      · exact operatorPostRoute_of_not_prefix (by decide)
  | deleteTask message =>
    obtain rfl := List.mem_singleton.mp hid
    have hencoded : ∀ c, isUnreserved c = false ∧ c ≠ '%' → c ∉ encodeURIComponent message.taskId :=
      fun c hc =>
      encoded_not_mem hc message.taskId
    rw [deleteTask_target] at htarget
    by_cases hsingle : UrlPath.isSingleDot (encodeURIComponent message.workflowId) = true
    · rw [if_pos hsingle] at htarget
      refine ⟨.notFound, _, handle_of_unknownPath hmethod ?_ ?_ ?_ ?_⟩
      · rw [htarget]
        simp only [List.mem_append, not_or]
        exact ⟨⟨by decide, by decide, hencoded '?' (by decide)⟩, by decide⟩
      · rw [htarget, List.append_assoc]
        exact List.IsPrefix.trans (by decide)
          (List.prefix_append kHttpOperatorWorkflowsPathPrefix _)
      · intro hupsert
        have hlengths := congrArg List.length (htarget.symm.trans hupsert)
        rw [List.length_append, List.length_append] at hlengths
        have hstart : kHttpOperatorWorkflowsPathPrefix.length = 23 := by decide
        have hwhole : kHttpOperatorWorkflowsPath.length = 22 := by decide
        omega
      · rw [htarget] at hlength ⊢
        exact operatorPostRoute_of_deleteAlone message.taskId hlength
    · rw [if_neg hsingle, if_pos ((Bool.or_eq_true _ _ ▸ hcases).resolve_left hsingle)] at htarget
      have hstart : "/v1/operator/tasks".toList <+: request.target :=
        htarget ▸ List.prefix_append _ _
      refine ⟨.notFound, _, handle_of_unknownPath hmethod ?_ ?_ ?_ ?_⟩
      · rw [htarget]
        simp only [List.mem_append, List.mem_cons, not_or]
        exact ⟨by decide, by decide, hencoded '?' (by decide), by decide⟩
      · exact List.IsPrefix.trans (by decide) hstart
      · intro hupsert
        rw [hupsert] at hstart
        exact absurd hstart (by decide)
      · refine operatorPostRoute_of_not_prefix fun hunderPrefix => ?_
        rcases List.prefix_or_prefix_of_prefix hunderPrefix hstart with hcase | hcase
        · exact absurd hcase (by decide)
        · exact absurd hcase (by decide)
  | pauseWorkflow _ | resumeWorkflow _ | cancelWorkflow _ | applyManualIntervention _ =>
    exact absurd hid List.not_mem_nil

theorem handle_of_sends {command : ConsoleCommand} (h : Sends reader request command)
    (hdots : ∀ id ∈ command.segmentIds, UrlPath.isDot (encodeURIComponent id) = false)
    (hids : ∀ id ∈ command.ids, id ≠ "") (hlength : request.target.length < 2 ^ 64) :
    handleHttpRequest env reader secureTransport request true =
      if ∀ id ∈ command.ids, Unchanged id then
        .mutation <$> command.operation env (applyTransportAuth request secureTransport)
      else pure (refusal command) := by
  obtain ⟨hmethod, htarget, hbody⟩ := h
  cases command with
  | upsertTask message =>
    have hdot := Bool.or_eq_false_iff.mp (UrlPath.isDot_eq _ ▸ hdots _ List.mem_cons_self)
    rw [upsertTask_target, if_neg (Bool.eq_false_iff.mp hdot.1),
      if_neg (Bool.eq_false_iff.mp hdot.2)] at htarget
    rw [handle_of_tasks hmethod (hids _ List.mem_cons_self) htarget hlength hbody]
    simp [ConsoleCommand.ids, ConsoleCommand.operation, refusal]
  | deleteTask message =>
    have hworkflow : message.workflowId ≠ "" := hids _ List.mem_cons_self
    have htask : message.taskId ≠ "" := hids _ (List.mem_cons_of_mem _ List.mem_cons_self)
    have hdot := Bool.or_eq_false_iff.mp (UrlPath.isDot_eq _ ▸ hdots _ List.mem_cons_self)
    rw [deleteTask_target, if_neg (Bool.eq_false_iff.mp hdot.1),
      if_neg (Bool.eq_false_iff.mp hdot.2)] at htarget
    rw [handle_of_delete hmethod hworkflow htask htarget hlength hbody]
    simp [ConsoleCommand.ids, ConsoleCommand.operation]
  | pauseWorkflow message =>
    rw [handle_of_action hmethod .pause (hids _ List.mem_cons_self)
      (htarget.trans (resolve_action .pause _)) hlength, OperatorAction.route, actionRoute_encoded
      (hids _ List.mem_cons_self) hbody]
    simp [ConsoleCommand.ids, ConsoleCommand.operation, refusal]
  | resumeWorkflow message =>
    rw [handle_of_action hmethod .resume (hids _ List.mem_cons_self)
      (htarget.trans (resolve_action .resume _)) hlength, OperatorAction.route, actionRoute_encoded
      (hids _ List.mem_cons_self) hbody]
    simp [ConsoleCommand.ids, ConsoleCommand.operation, refusal]
  | cancelWorkflow message =>
    rw [handle_of_action hmethod .cancel (hids _ List.mem_cons_self)
      (htarget.trans (resolve_action .cancel _)) hlength, OperatorAction.route, actionRoute_encoded
      (hids _ List.mem_cons_self) hbody]
    simp [ConsoleCommand.ids, ConsoleCommand.operation, refusal]
  | applyManualIntervention message =>
    rw [handle_of_action hmethod .manualIntervention (hids _ List.mem_cons_self)
      (htarget.trans (resolve_action .manualIntervention _)) hlength, OperatorAction.route,
      manualInterventionRoute_encoded (hids _ List.mem_cons_self) hbody]
    simp [ConsoleCommand.ids, ConsoleCommand.operation, refusal]

theorem mutation_ne_error (status : Status) (text : String)
    (outcome : Service Operator.MutationOutcome) :
    (pure (.error status text) : Service HttpResponse) ≠ HttpResponse.mutation <$> outcome := by
  cases outcome with
  | ret outcome => exact fun h => nomatch h
  | call op k => exact fun h => nomatch h

theorem mutation_ne_refusal (command : ConsoleCommand)
    (outcome : Service Operator.MutationOutcome) :
    (pure (refusal command) : Service HttpResponse) ≠ HttpResponse.mutation <$> outcome := by
  cases command <;> exact mutation_ne_error _ _ outcome

/-- An id that the encoding leaves alone makes a dot segment only when it is one. -/
theorem dots_of_isDot {id : String} (hplain : ∀ c ∈ id.toList, isUnreserved c = true)
    (hdot : UrlPath.isDot (encodeURIComponent id) = true) : id = "." ∨ id = ".." := by
  have hself : encodeURIComponent id = id.toList := Percent.encode_eq_self_iff.mpr hplain
  have hall : ∀ segment ∈ UrlPath.dots ++ UrlPath.doubleDots, segment.all isUnreserved = true →
      segment = ".".toList ∨ segment = "..".toList := by decide
  rw [hself] at hdot
  rcases hall id.toList (of_decide_eq_true hdot) (List.all_eq_true.mpr hplain) with h | h
  · exact Or.inl (String.toList_injective h)
  · exact Or.inr (String.toList_injective h)

theorem mem_ids_of_segment {command : ConsoleCommand} {id : String} (h : id ∈ command.segmentIds) :
    id ∈ command.ids := by
  cases command with
  | upsertTask message => exact h
  | deleteTask message => exact List.mem_cons.mpr (Or.inl (List.mem_singleton.mp h))
  | pauseWorkflow _ | resumeWorkflow _ | cancelWorkflow _ | applyManualIntervention _ =>
    exact absurd h List.not_mem_nil

/-- The console's commands reach their operations just when the encoding leaves their ids alone and
no id is a dot segment of the path. -/
theorem handle_of_sends_iff {command : ConsoleCommand} (h : Sends reader request command)
    (hids : ∀ id ∈ command.ids, id ≠ "") (hlength : request.target.length < 2 ^ 64) :
    handleHttpRequest env reader secureTransport request true =
        .mutation <$> command.operation env (applyTransportAuth request secureTransport) ↔
      (∀ id ∈ command.ids, ∀ c ∈ id.toList, isUnreserved c = true) ∧
        ∀ id ∈ command.segmentIds, id ≠ "." ∧ id ≠ ".." := by
  by_cases hdots : ∀ id ∈ command.segmentIds, UrlPath.isDot (encodeURIComponent id) = false
  · have hnone : ∀ id ∈ command.segmentIds, id ≠ "." ∧ id ≠ ".." := by
      intro id hid
      constructor
      · rintro rfl
        exact absurd (hdots _ hid) (by decide)
      · rintro rfl
        exact absurd (hdots _ hid) (by decide)
    rw [handle_of_sends h hdots hids hlength, and_iff_left hnone]
    simp only [← unchanged_iff]
    by_cases hunchanged : ∀ id ∈ command.ids, Unchanged id
    · exact iff_of_true (if_pos hunchanged) hunchanged
    · rw [if_neg hunchanged]
      exact iff_of_false (mutation_ne_refusal command _) hunchanged
  · push Not at hdots
    obtain ⟨id, hid, hdot⟩ := hdots
    have hdot : UrlPath.isDot (encodeURIComponent id) = true := eq_true_of_ne_false hdot
    obtain ⟨status, text, hhandle⟩ :=
      @handle_of_dots env reader secureTransport request command h ⟨id, hid, hdot⟩ hlength
    rw [hhandle]
    refine iff_of_false (mutation_ne_error status text _) fun ⟨hplain, hnone⟩ => ?_
    rcases dots_of_isDot (hplain id (mem_ids_of_segment hid)) hdot with heq | heq
    · exact (hnone id hid).1 heq
    · exact (hnone id hid).2 heq

def reorchestrateCall (env : Environment) (message : ReorchestrateRequest) :
    Service HttpResponse := do
  let events ← streamReorchestrate env message
  pure (.runtime (consumeFinalResponse events))

theorem error_ne_reorchestrateCall (status : Status) (text : String)
    (message : ReorchestrateRequest) :
    (pure (.error status text) : Service HttpResponse) ≠ reorchestrateCall env message := by
  unfold reorchestrateCall
  cases streamReorchestrate env message with
  | ret events => exact fun h => nomatch h
  | call op k => exact fun h => nomatch h

/-- The paths of the runtime service are no paths of the operator, and only the one is submission. -/
theorem handle_of_workflowsPath (hmethod : request.method = .post) {path query : List Char}
    (operatorEnabled : Bool) (htarget : splitTarget request.target = (path, query))
    (hstart : kHttpWorkflowsPathPrefix <+: path) :
    handleHttpRequest env reader secureTransport request operatorEnabled =
      match extractWorkflowIdFromTarget path with
      | some workflowId => reorchestrateRoute env reader secureTransport request workflowId
      | none => pure (.error .notFound "Unsupported route.") := by
  have hoperator : ¬"/v1/operator".toList.isPrefixOf path = true := by
    rw [List.isPrefixOf_iff_prefix]
    intro hunderPrefix
    rcases List.prefix_or_prefix_of_prefix hunderPrefix hstart with h | h
    · exact absurd h (by decide)
    · exact absurd h (by decide)
  have hsubmit : path ≠ kHttpSubmitWorkflowPath := by
    rintro rfl
    exact absurd hstart (by decide)
  rw [handleHttpRequest, htarget]
  dsimp only
  exact (if_neg hoperator).trans ((if_neg (not_not.mpr hmethod)).trans (if_neg hsubmit))

theorem handle_of_path_iff {message : ReorchestrateRequest} (operatorEnabled : Bool)
    (hmethod : request.method = .post) {path query : List Char}
    (htarget : splitTarget request.target = (path, query))
    (hstart : kHttpWorkflowsPathPrefix <+: path)
    (hbody : reader.reorchestrate request.body = some message) (hid : message.workflowId ≠ "")
    (hlength : (reorchestrateTarget message).length < 2 ^ 64) (hpathLength : path.length < 2 ^ 64) :
    handleHttpRequest env reader secureTransport request operatorEnabled =
        reorchestrateCall env
        { message with auth := applyTransportAuth request secureTransport message.auth } ↔
      path = reorchestrateTarget message := by
  rw [handle_of_workflowsPath hmethod operatorEnabled htarget hstart]
  constructor
  · intro hcall
    cases hextract : extractWorkflowIdFromTarget path with
    | none =>
      rw [hextract] at hcall
      exact absurd hcall (error_ne_reorchestrateCall _ _ _)
    | some id =>
      by_cases hsame : message.workflowId = id
      · rw [path_of_target hextract hpathLength, reorchestrateTarget, hsame]
      · rw [hextract] at hcall
        dsimp only at hcall
        rw [reorchestrateRoute, hbody] at hcall
        dsimp only at hcall
        rw [if_pos ⟨hid, hsame⟩] at hcall
        exact absurd hcall (error_ne_reorchestrateCall _ _ _)
  · rintro rfl
    have hidText : message.workflowId.toList ≠ [] := fun h => hid (String.toList_eq_nil_iff.mp h)
    have hextract : extractWorkflowIdFromTarget (reorchestrateTarget message) =
        some message.workflowId := by
      rw [reorchestrateTarget] at hlength
      rw [extractWorkflowIdFromTarget, reorchestrateTarget, between_append hidText hlength,
        Option.map_some, String.ofList_toList]
    rw [hextract]
    dsimp only
    rw [reorchestrateRoute, hbody]
    exact if_neg fun hmismatch => hmismatch.2 rfl

/-- The client's target arrives and reaches the operation just when there is no question mark, no
blank and no control character in the id. -/
theorem handle_of_reorchestrate_iff {deliver : List Char → Option (List Char)}
    (hdeliver : DeliversTargets deliver) {message : ReorchestrateRequest} (operatorEnabled : Bool)
    (hmethod : request.method = .post) (hbody : reader.reorchestrate request.body = some message)
    (hid : message.workflowId ≠ "") (hlength : (reorchestrateTarget message).length < 2 ^ 64) :
    (∃ target, deliver (reorchestrateTarget message) = some target ∧
        handleHttpRequest env reader secureTransport { request with target := target }
          operatorEnabled =
          reorchestrateCall env
          { message with auth := applyTransportAuth request secureTransport message.auth }) ↔
      ∀ c ∈ message.workflowId.toList, isTargetChar c = true ∧ c ≠ '?' := by
  have hends : ∀ c ∈ kHttpWorkflowsPathPrefix ++ kHttpReorchestratePathSuffix, isTargetChar c =
      true ∧ c ≠ '?' :=
    List.all_iff_forall_prop.mp (by decide)
  constructor
  · rintro ⟨target, htarget, hcall⟩
    obtain rfl := hdeliver.ends _ _ htarget
    have hstart : kHttpWorkflowsPathPrefix <+:
        (splitTarget ((reorchestrateTarget message).takeWhile isTargetChar)).1 := by
      have hbefore := fun c hc => hends c (List.mem_append_left _ hc)
      rw [splitTarget, reorchestrateTarget, List.append_assoc,
        List.takeWhile_append_of_pos fun c hc => (hbefore c hc).1,
        List.takeWhile_append_of_pos fun c hc => decide_eq_true (hbefore c hc).2]
      exact List.prefix_append _ _
    have hpathLength :
        (splitTarget ((reorchestrateTarget message).takeWhile isTargetChar)).1.length < 2 ^ 64 :=
      Nat.lt_of_le_of_lt
        (((List.takeWhile_prefix _).trans (List.takeWhile_prefix _)).length_le) hlength
    have hpath := (@handle_of_path_iff env reader secureTransport
      { request with target := (reorchestrateTarget message).takeWhile isTargetChar } message
      operatorEnabled hmethod _ _ rfl hstart hbody hid hlength hpathLength).mp hcall
    have hwhole : (reorchestrateTarget message).takeWhile isTargetChar =
        reorchestrateTarget message := by
      refine (List.takeWhile_prefix _).eq_of_length_le ?_
      have hle := (List.takeWhile_prefix (l := (reorchestrateTarget message).takeWhile isTargetChar)
        fun c => decide (c ≠ '?')).length_le
      exact le_of_eq_of_le (congrArg List.length hpath).symm hle
    have hnoQuery : (reorchestrateTarget message).takeWhile (fun c => decide (c ≠ '?')) =
        reorchestrateTarget message := by
      conv_rhs => rw [← hpath, hwhole]
    intro c hc
    have hmem : c ∈ reorchestrateTarget message :=
      List.mem_append_left _ (List.mem_append_right _ hc)
    exact ⟨List.takeWhile_eq_self_iff.mp hwhole c hmem,
      of_decide_eq_true (List.takeWhile_eq_self_iff.mp hnoQuery c hmem)⟩
  · intro hid'
    have hall : ∀ c ∈ reorchestrateTarget message, isTargetChar c = true ∧ c ≠ '?' := by
      intro c hc
      rcases List.mem_append.mp hc with hc | hc
      · rcases List.mem_append.mp hc with hc | hc
        · exact hends c (List.mem_append_left _ hc)
        · exact hid' c hc
      · exact hends c (List.mem_append_right _ hc)
    have hsplit : splitTarget (reorchestrateTarget message) = (reorchestrateTarget message, []) :=
      splitTarget_of_no_query fun h => (hall _ h).2 rfl
    have hstart : kHttpWorkflowsPathPrefix <+: reorchestrateTarget message := by
      rw [reorchestrateTarget, List.append_assoc]
      exact List.prefix_append _ _
    refine ⟨_, hdeliver.whole _ fun c hc => (hall c hc).1, ?_⟩
    exact (@handle_of_path_iff env reader secureTransport
      { request with target := reorchestrateTarget message } message
      operatorEnabled hmethod _ _ hsplit hstart hbody hid hlength hlength).mpr rfl

end RoundTrips

/-- A reader of the bodies that a pause of the workflow and its reorchestration are sent with. -/
def readsFor (id : WorkflowId) : MessageReader :=
  { noMessages with
    workflowAction := fun body => if body = "pause" then some { workflowId := id } else none
    reorchestrate := fun body => if body = "reorchestrate" then some { workflowId := id }
      else none }

def pauseOf (id : WorkflowId) : ConsoleCommand := .pauseWorkflow { workflowId := id }

def pauseRequest (id : WorkflowId) : HttpRequest :=
  { method := .post, target := (pauseOf id).target, body := "pause" }

theorem pauseRequest_sends (id : WorkflowId) : Sends (readsFor id) (pauseRequest id) (pauseOf id) :=
  ⟨rfl, rfl, (by decide : "pause" ≠ ""), rfl⟩

def reorchestrateRequest (id : WorkflowId) : HttpRequest :=
  { method := .post, target := reorchestrateTarget { workflowId := id }, body := "reorchestrate" }

def deliverWhole (target : List Char) : Option (List Char) :=
  if target.all isTargetChar then some target else none

theorem deliverWhole_delivers : DeliversTargets deliverWhole where
  whole target h := if_pos (List.all_eq_true.mpr h)
  ends target delivered h := by
    unfold deliverWhole at h
    split_ifs at h with hall
    exact (Option.some.inj h).symm.trans
      (List.takeWhile_eq_self_iff.mpr (List.all_eq_true.mp hall)).symm

end TaskOrchestrator.Console
