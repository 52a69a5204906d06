import TaskOrchestrator.Application.TextForm

/-!
# One view of a workflow

The YAML document gives the model that the description means except for the deadlines that the
loader adds, and the text form gives that model.
-/

namespace TaskOrchestrator.App

open Library Optimizer

set_option autoImplicit false

theorem actorKey_injective : Function.Injective ActorField.key := by
  intro field other h
  cases field <;> cases other <;> first | rfl | simp [ActorField.key] at h

theorem taskKey_injective : Function.Injective TaskField.key := by
  intro field other h
  cases field <;> cases other <;> first | rfl | simp [TaskField.key] at h

section Nodes

variable {φ : Type} {key : φ → String} {node : φ → YamlNode} {id : String} {given : List φ}

theorem get_id : (fieldNodes key node id given).get "id" = some (some (.scalar id)) := by
  simp [fieldNodes, YamlNode.get]

theorem get_other {name : String} (hid : name ≠ "id") (hname : ∀ field, key field ≠ name) :
    (fieldNodes key node id given).get name = some none := by
  simp [fieldNodes, YamlNode.get, hid.symm, hname]

variable [DecidableEq φ]

theorem get_key (hinjective : Function.Injective key) (hid : ∀ field, key field ≠ "id")
    (field : φ) :
    (fieldNodes key node id given).get (key field) =
      some (if field ∈ given then some (node field) else none) := by
  have hfirst : ("id", YamlNode.scalar id).1 ≠ key field := fun heq => hid field heq.symm
  rw [fieldNodes, YamlNode.get, List.find?_cons_of_neg (by simpa using hfirst)]
  induction given with
  | nil => rfl
  | cons other rest ih =>
    by_cases heq : other = field
    · simp [heq]
    · have hne : key other ≠ key field := fun h => heq (hinjective h)
      have hmem : field ∈ other :: rest ↔ field ∈ rest := by simp [Ne.symm heq]
      rw [List.map_cons, List.find?_cons_of_neg (by simpa using hne), ih]
      simp only [hmem]

variable (hinjective : Function.Injective key) (hid : ∀ field, key field ≠ "id")
include hinjective hid

theorem fieldOr_key {α : Type} {convert : YamlNode → Option α} (field : φ) {value : α} (default : α)
    (hconvert : field ∈ given → convert (node field) = some value) :
    (fieldNodes key node id given).fieldOr (key field) convert default =
      some (if field ∈ given then value else default) := by
  rw [YamlNode.fieldOr, get_key hinjective hid]
  by_cases hgiven : field ∈ given
  · simp [hgiven, hconvert hgiven]
  · simp [hgiven]

theorem sequenceField_key {α : Type} {transform : YamlNode → Option α} (field : φ)
    {items : List YamlNode} {values : List α} (hnode : node field = .sequence items)
    (htransform : field ∈ given → items.mapM transform = some values) :
    (fieldNodes key node id given).sequenceField (key field) transform =
      some (if field ∈ given then values else []) := by
  rw [YamlNode.sequenceField, get_key hinjective hid]
  by_cases hgiven : field ∈ given
  · simp [hgiven, hnode, htransform hgiven]
  · simp [hgiven]

variable {yaml : YamlCpp} (hreads : ReadsAsWritten yaml)

theorem names_key (field : φ) {names : List String} (hnode : node field = .ofNames names) :
    (fieldNodes key node id given).sequenceField (key field) YamlNode.asString =
      some (if field ∈ given then names else []) := by
  apply sequenceField_key hinjective hid field hnode
  intro _
  have hnames := mapM_eq_pure (m := Option) (g := fun name => name) fun name (_ : name ∈ names) =>
    (rfl : YamlNode.asString (.scalar name) = some name)
  rw [List.mapM_map, Function.comp_def]
  rwa [List.map_id_fun'] at hnames

theorem double_key (field : φ) {stod : List Char → Option Rat} {number : Decimal} (default : Rat)
    (hnode : node field = .scalar number.text)
    (hnumber : field ∈ given → number.Denoted yaml stod) :
    (fieldNodes key node id given).fieldOr (key field) (·.as yaml.asDouble) default =
      some (if field ∈ given then number.value else default) := by
  apply fieldOr_key hinjective hid
  intro hgiven
  rw [hnode]
  exact (hnumber hgiven).2.2

include hreads

theorem int64_key (field : φ) {n : Int} (default : Int) (hnode : node field = .ofInt n)
    (hfits : field ∈ given → Fits 64 n) :
    (fieldNodes key node id given).fieldOr (key field) (·.as yaml.asInt64) default =
      some (if field ∈ given then n else default) := by
  apply fieldOr_key hinjective hid
  intro hgiven
  rw [hnode]
  exact hreads.asInt64 n (hfits hgiven)

theorem int32_key (field : φ) {n : Int} (default : Int) (hnode : node field = .ofInt n)
    (hfits : field ∈ given → Fits 32 n) :
    (fieldNodes key node id given).fieldOr (key field) (·.as yaml.asInt32) default =
      some (if field ∈ given then n else default) := by
  apply fieldOr_key hinjective hid
  intro hgiven
  rw [hnode]
  exact hreads.asInt32 n (hfits hgiven)

theorem bool_key (field : φ) {value : Bool} (default : Bool) (hnode : node field = .ofBool value) :
    (fieldNodes key node id given).fieldOr (key field) (·.as yaml.asBool) default =
      some (if field ∈ given then value else default) := by
  apply fieldOr_key hinjective hid
  intro _
  rw [hnode]
  exact hreads.asBool value

end Nodes

theorem toAppActor_withDefaultWindow (actor : OptimizerActor) :
    Runner.toAppActor (withDefaultWindow actor) =
      { Runner.toAppActor actor with windows := defaultWindows (Runner.toAppActor
        actor).windows } := by
  unfold withDefaultWindow
  split_ifs with hnone
  · simp [Runner.toAppActor, hnone, defaultWindows]
    rfl
  · simp [Runner.toAppActor, hnone, defaultWindows]

section Loaded

variable {yaml : YamlCpp} {stod : List Char → Option Rat} (hreads : ReadsAsWritten yaml)
include hreads

theorem parseAvailabilityWindow_node {window : Int × Int} (h : WindowWritable window) :
    parseAvailabilityWindow yaml (.map [("start", .ofInt window.1), ("end", .ofInt window.2)]) =
      some { start := window.1, stop := window.2 } := by
  have hstart : yaml.asInt64 (String.ofList (Text.writeInt window.1)) = some window.1 :=
    hreads.asInt64 _ h.2.1
  have hstop : yaml.asInt64 (String.ofList (Text.writeInt window.2)) = some window.2 :=
    hreads.asInt64 _ h.2.2
  simp [parseAvailabilityWindow, YamlNode.fieldOr, YamlNode.get, YamlNode.as, YamlNode.ofInt,
    hstart, hstop]

theorem parseActorNode_yaml {actor : ActorDescription} (h : actor.Expressible yaml stod) :
    parseActorNode yaml actor.yaml = some (Runner.toAppActor actor.model) := by
  have hkey := actorKey_injective
  have hid : ∀ field, ActorField.key field ≠ "id" := by
    intro field
    cases field <;> decide
  have hname : actor.yaml.fieldOr "id" YamlNode.asString "" = some actor.id := by
    rw [YamlNode.fieldOr, ActorDescription.yaml, get_id]
    rfl
  have htype : actor.yaml.fieldOr "type" YamlNode.asString "" =
      some (if .type ∈ actor.given then actor.type else "") :=
    fieldOr_key hkey hid ActorField.type "" fun _ => rfl
  have hcapacity : actor.yaml.fieldOr "capacity" (·.as yaml.asInt32) 1 =
      some (if .capacity ∈ actor.given then actor.capacity else 1) :=
    int32_key hkey hid hreads ActorField.capacity 1 rfl (h.fields _)
  have hcapabilities : actor.yaml.sequenceField "capabilities" YamlNode.asString =
      some (if .capabilities ∈ actor.given then actor.capabilities else []) :=
    names_key hkey hid ActorField.capabilities rfl
  have hcost : actor.yaml.fieldOr "execution_cost_per_unit" (·.as yaml.asDouble) 0 =
      some (if .cost ∈ actor.given then actor.cost.value else 0) :=
    double_key hkey hid ActorField.cost 0 rfl (h.fields _)
  have hwindows : actor.yaml.sequenceField "windows" (parseAvailabilityWindow yaml) =
      some (if .windows ∈ actor.given then actor.windows.map fun window =>
        { start := window.1, stop := window.2 }
        else []) := by
    apply sequenceField_key hkey hid ActorField.windows rfl
    intro hgiven
    rw [List.mapM_map]
    exact mapM_eq_pure fun window hwindow =>
      parseAvailabilityWindow_node hreads (h.fields _ hgiven window hwindow)
  simp only [parseActorNode, hname, htype, hcapacity, hcapabilities, hcost, hwindows,
    Option.bind_eq_bind, Option.bind_some, Option.pure_def]
  rw [ActorDescription.model, toAppActor_withDefaultWindow]
  simp [Runner.toAppActor, ActorDescription.upTo, apply_ite
    (List.map Runner.toAppWindow), Runner.toAppWindow, Function.comp_def]

theorem actorDistanceOverrides_yaml {task : TaskDescription} (h : task.Expressible yaml stod) :
    actorDistanceOverrides yaml task.yaml = some task.model.actorDistances.rows := by
  have hid : ∀ field, TaskField.key field ≠ "id" := by
    intro field
    cases field <;> decide
  have hget : task.yaml.get "actor_distances" =
      some (if .distances ∈ task.given then some (task.node .distances) else none) :=
    get_key taskKey_injective hid TaskField.distances
  rw [actorDistanceOverrides, hget, TaskDescription.model, TaskDescription.upTo]
  by_cases hgiven : .distances ∈ task.given
  · have hwritable : DistancesWritable task.distances := h.fields _ hgiven
    simp only [hgiven, if_true, TaskDescription.node, Option.bind_some]
    rw [Dictionary.rows_foldl_emplace hwritable.keys, List.foldlM_map]
    nth_rewrite 2 [← foldl_emplace_self hwritable.keys]
    apply foldlM_eq_pure
    intro distances entry hentry
    have hread := hreads.asInt64 entry.2 (hwritable.entries entry hentry).2
    simp [parseActorDistance, YamlNode.as, YamlNode.ofInt, hread]
  · simp only [hgiven, if_false, Option.bind_some]
    rfl

theorem parseTaskNode_yaml {task : TaskDescription} (h : task.Expressible yaml stod) :
    parseTaskNode yaml task.yaml = some (defaultDeadline (Runner.toAppTask task.model)) := by
  have hkey := taskKey_injective
  have hid : ∀ field, TaskField.key field ≠ "id" := by
    intro field
    cases field <;> decide
  have hname : task.yaml.fieldOr "id" YamlNode.asString "" = some task.id := by
    rw [YamlNode.fieldOr, TaskDescription.yaml, get_id]
    rfl
  have hphases : task.yaml.sequenceField "phase_durations" (·.as yaml.asInt64) = some [] := by
    have hother : ∀ field, TaskField.key field ≠ "phase_durations" := by
      intro field
      cases field <;> decide
    rw [YamlNode.sequenceField, TaskDescription.yaml, get_other (by decide) hother]
    rfl
  have hrelease : task.yaml.fieldOr "requested_time" (·.as yaml.asInt64) 0 =
      some task.model.releaseTime :=
    int64_key hkey hid hreads TaskField.release 0 rfl (h.fields _)
  have hduration : task.yaml.fieldOr "duration" (·.as yaml.asInt64) 0 = some task.model.duration :=
    int64_key hkey hid hreads TaskField.duration 0 rfl (h.fields _)
  have hlatest : task.yaml.fieldOr "latest_start_time" (·.as yaml.asInt64) 0 =
      some (task.model.latestStartTime.getD 0) := by
    rw [TaskDescription.model, TaskDescription.upTo, apply_ite (fun time => Option.getD time 0)]
    exact int64_key hkey hid hreads TaskField.latestStart 0 rfl fun hgiven => (h.fields _ hgiven).1
  have hdeadline : task.yaml.fieldOr "deadline" (·.as yaml.asInt64) 0 =
      some (task.model.deadline.getD 0) := by
    rw [TaskDescription.model, TaskDescription.upTo, apply_ite (fun time => Option.getD time 0)]
    exact int64_key hkey hid hreads TaskField.deadline 0 rfl fun hgiven => (h.fields _ hgiven).1
  have hpriority : task.yaml.fieldOr "priority" (·.as yaml.asInt32) 0 = some task.model.priority :=
    int32_key hkey hid hreads TaskField.priority 0 rfl (h.fields _)
  have hdemand : task.yaml.fieldOr "demand" (·.as yaml.asInt32) 1 = some task.model.demand :=
    int32_key hkey hid hreads TaskField.demand 1 rfl (h.fields _)
  have hmandatory : task.yaml.fieldOr "mandatory" (·.as yaml.asBool) true =
      some task.model.mandatory :=
    bool_key hkey hid hreads TaskField.mandatory true rfl
  have hpreemptible : task.yaml.fieldOr "preemptible" (·.as yaml.asBool) false =
      some task.model.preemptible :=
    bool_key hkey hid hreads TaskField.preemptible false rfl
  have htypes : task.yaml.sequenceField "allowed_actor_types" YamlNode.asString =
      some task.model.allowedActorTypes :=
    names_key hkey hid TaskField.requiresType rfl
  have hactors : task.yaml.sequenceField "allowed_actor_ids" YamlNode.asString =
      some task.model.allowedActorIds :=
    names_key hkey hid TaskField.allowedActor rfl
  have hpreferred : task.yaml.sequenceField "preferred_actor_ids" YamlNode.asString =
      some task.model.preferredActorIds :=
    names_key hkey hid TaskField.preferredActor rfl
  have hcapabilities : task.yaml.sequenceField "required_capabilities" YamlNode.asString =
      some task.model.requiredCapabilities :=
    names_key hkey hid TaskField.requiresCapabilities rfl
  have hdependencies : task.yaml.sequenceField "dependency_task_ids" YamlNode.asString =
      some task.model.dependencyTaskIds :=
    names_key hkey hid TaskField.dependsOn rfl
  have hmutexes : task.yaml.sequenceField "mutually_exclusive_task_ids" YamlNode.asString =
      some task.model.mutuallyExclusiveTaskIds :=
    names_key hkey hid TaskField.mutex rfl
  have htardiness : task.yaml.fieldOr "tardiness_cost_per_unit" (·.as yaml.asDouble) 0 =
      some task.model.tardinessCostPerUnit :=
    double_key hkey hid TaskField.tardinessCost 0 rfl (h.fields _)
  have hbonus : task.yaml.fieldOr "early_start_bonus" (·.as yaml.asDouble) 0 =
      some task.model.earlyStartBonus :=
    double_key hkey hid TaskField.earlyStartBonus 0 rfl (h.fields _)
  simp only [parseTaskNode, hname, hphases, hrelease, hduration, hlatest, hdeadline, hpriority,
    hdemand, hmandatory, hpreemptible, htypes, hactors, hpreferred, hcapabilities, hdependencies,
    hmutexes, htardiness, hbonus,
    actorDistanceOverrides_yaml hreads h, Option.bind_eq_bind, Option.bind_some, Option.pure_def]
  rfl

end Loaded

theorem toOptimizerActor_toAppActor (actor : OptimizerActor) :
    toOptimizerActor (Runner.toAppActor actor) = actor := by
  simp [toOptimizerActor, Runner.toAppActor, Runner.toAppWindow, Function.comp_def]

/-- The release and duration that a task is described with; a release that is not given is zero. -/
def TaskDescription.earliestEnd (task : TaskDescription) : Int :=
  (if .release ∈ task.given then task.release else 0) + task.duration

theorem toOptimizerTask_toAppTask (task : OptimizerTask) (deadline : Time) :
    toOptimizerTask { Runner.toAppTask task with deadline := deadline } =
      { task with
        latestStartTime := optionalTimeFromConfigValue (task.latestStartTime.getD 0)
        deadline := optionalTimeFromConfigValue deadline } := by
  simp only [toOptimizerTask, Runner.toAppTask, foldl_emplace_rows]

/-- The loader's deadline is no deadline only for a task that ends long before time zero. -/
theorem loadedTask_iff {yaml : YamlCpp} {stod : List Char → Option Rat} {task : TaskDescription}
    (h : task.Expressible yaml stod) :
    toOptimizerTask (defaultDeadline (Runner.toAppTask task.model)) = task.model ↔
      .deadline ∈ task.given ∨ task.earliestEnd + kDefaultDeadlineSlack ≤ 0 := by
  have hlatest : optionalTimeFromConfigValue (task.model.latestStartTime.getD 0) =
      task.model.latestStartTime := by
    rw [optionalTime_eq_self_iff]
    intro latest hmem
    simp only [TaskDescription.model, TaskDescription.upTo] at hmem
    split_ifs at hmem with hgiven
    · obtain rfl := Option.mem_some_iff.mp hmem
      exact (h.fields _ hgiven).2
    · exact absurd hmem (by simp)
  by_cases hgiven : .deadline ∈ task.given
  · have hpositive : 0 < task.deadline := (h.fields _ hgiven).2
    have hsome : task.model.deadline = some task.deadline := if_pos hgiven
    have hkept : defaultDeadline (Runner.toAppTask task.model) =
        { Runner.toAppTask task.model with deadline := task.deadline } := by
      have happ : (Runner.toAppTask task.model).deadline = task.deadline := by
        simp [Runner.toAppTask, hsome]
      rw [defaultDeadline, happ, if_neg hpositive.ne', ← happ]
    rw [hkept, toOptimizerTask_toAppTask, hlatest,
      optionalTimeFromConfigValue, if_pos hpositive, ← hsome]
    exact iff_of_true rfl (Or.inl hgiven)
  · have hnone : task.model.deadline = none := if_neg hgiven
    have hend : task.model.releaseTime + task.model.duration = task.earliestEnd := by
      simp [TaskDescription.model, TaskDescription.upTo, TaskDescription.earliestEnd, h.duration]
    have hadded : defaultDeadline (Runner.toAppTask task.model) =
        { Runner.toAppTask task.model with deadline :=
          task.earliestEnd + kDefaultDeadlineSlack } := by
      have happ : (Runner.toAppTask task.model).deadline = 0 := by simp [Runner.toAppTask, hnone]
      rw [defaultDeadline, if_pos happ, ← hend]
      rfl
    rw [hadded, toOptimizerTask_toAppTask, hlatest]
    have hsame : { task.model with
        deadline := optionalTimeFromConfigValue (task.earliestEnd + kDefaultDeadlineSlack) } =
        task.model ↔ optionalTimeFromConfigValue (task.earliestEnd + kDefaultDeadlineSlack) =
          none := by
      rw [← hnone]
      cases task.model
      simp
    rw [hsame, optionalTimeFromConfigValue, or_iff_right hgiven]
    split_ifs with hpositive
    · exact iff_of_false (by simp) (not_le.mpr hpositive)
    · exact iff_of_true rfl (not_lt.mp hpositive)

section Forms

variable {yaml : YamlCpp} {stod : List Char → Option Rat} {workflow : WorkflowDescription}

theorem loadConfig_yamlForm (hreads : ReadsAsWritten yaml) (h : workflow.Expressible yaml stod)
    {content : String} (hload : yaml.load content = some workflow.yamlForm) :
    loadConfigFromString yaml content =
      { id := workflow.model.id
        actors := workflow.model.actors.map Runner.toAppActor
        tasks := workflow.model.tasks.map fun task =>
          defaultDeadline (Runner.toAppTask task) } := by
  have hactors : (workflow.actors.map ActorDescription.yaml).mapM (parseActorNode yaml) =
      some (workflow.model.actors.map Runner.toAppActor) := by
    rw [List.mapM_map, WorkflowDescription.model, List.map_map]
    exact mapM_eq_pure fun actor hactor => parseActorNode_yaml hreads (h.actors actor hactor)
  have htasks : (workflow.tasks.map TaskDescription.yaml).mapM (parseTaskNode yaml) =
      some (workflow.model.tasks.map fun task => defaultDeadline (Runner.toAppTask task)) := by
    rw [List.mapM_map, WorkflowDescription.model, List.map_map]
    exact mapM_eq_pure fun task htask => parseTaskNode_yaml hreads (h.tasks task htask)
  rw [loadConfigFromString, hload]
  cases hid : workflow.id with
  | none =>
    simp [WorkflowDescription.yamlForm, findWorkflowNode, parseWorkflowYaml, YamlNode.get,
      YamlNode.isMap, YamlNode.fieldOr, YamlNode.sequenceField, hid, hactors, htasks,
      kDefaultWorkflowId]
    simp [WorkflowDescription.model, hid]
  | some id =>
    have htitle : IsTitle id.toList := h.id id hid
    have hne : id ≠ "" := fun heq => htitle.nonempty (by rw [heq]; rfl)
    simp [WorkflowDescription.yamlForm, findWorkflowNode, parseWorkflowYaml, YamlNode.get,
      YamlNode.isMap, YamlNode.fieldOr, YamlNode.sequenceField, YamlNode.asString, hid, hactors,
      htasks, hne]
    simp [WorkflowDescription.model, hid]

/-- The two languages give one model just when every task is given a deadline, or ends so early
that the deadline which the loader adds is not positive. -/
theorem one_view_iff (yaml : YamlCpp) (stod : List Char → Option Rat)
    (workflow : WorkflowDescription) (content : String) (hreads : ReadsAsWritten yaml)
    (hexpressible : workflow.Expressible yaml stod)
    (hload : yaml.load content = some workflow.yamlForm) :
    Accepts stod workflow.textForm (toModel (loadConfigFromString yaml content)) ↔
      ∀ task ∈ workflow.tasks, .deadline ∈ task.given ∨
      task.earliestEnd + kDefaultDeadlineSlack ≤ 0 := by
  have htext := accepts_iff.mp (textForm_accepted hexpressible)
  have hmodel : toModel (loadConfigFromString yaml content) =
      { workflow.model with
        tasks :=
          workflow.tasks.map fun task =>
            toOptimizerTask (defaultDeadline (Runner.toAppTask task.model)) } := by
    rw [loadConfig_yamlForm hreads hexpressible hload]
    simp [toModel, Function.comp_def, toOptimizerActor_toAppActor, WorkflowDescription.model]
  have hsame : { workflow.model with
      tasks :=
        workflow.tasks.map fun task =>
          toOptimizerTask (defaultDeadline (Runner.toAppTask task.model)) } =
        workflow.model ↔
      ∀ task ∈ workflow.tasks, toOptimizerTask (defaultDeadline (Runner.toAppTask task.model)) =
        task.model := by
    rw [← List.map_inj_left]
    simp [WorkflowDescription.model]
  rw [accepts_iff, htext, Except.ok.injEq, hmodel, eq_comm, hsame]
  apply forall₂_congr
  intro task htask
  exact loadedTask_iff (hexpressible.tasks task htask)

end Forms

def oneTask (given : List TaskField) : WorkflowDescription where
  actors := [{ id := "x", given := [.type], type := "robot" }]
  tasks := [{ id := "a", given := given, duration := 5, deadline := 20 }]

def oneTaskYaml : String :=
  "actors:\n  - id: x\n    type: robot\ntasks:\n  - id: a\n    duration: 5\n"

/-- A scalar that is a number of the given size as it is written. -/
def readScalar (bits : Nat) (text : String) : Option Int :=
  (Text.readInt text.toList).filter fun n =>
    -2 ^ (bits - 1) ≤ n ∧ n < 2 ^ (bits - 1) ∧ Text.writeInt n = text.toList

def oneTaskYamlCpp : YamlCpp where
  load content :=
    if content = oneTaskYaml then some (oneTask [.duration]).yamlForm
    else if content = oneTaskYaml ++ "    deadline: 20\n"
      then some (oneTask [.duration, .deadline]).yamlForm
    else none
  asInt64 := readScalar 64
  asInt32 := readScalar 32
  asDouble text := (readScalar 64 text).map fun n => n
  asBool text := if text = "true" then some true else if text = "false" then some false else none

theorem readScalar_writeInt {bits : Nat} {n : Int} (hfits : Fits bits n) :
    readScalar bits (String.ofList (Text.writeInt n)) = some n := by
  have hread : Text.readInt (Text.writeInt n ++ []) = some n := Text.readInt_writeInt n (by simp)
  rw [List.append_nil] at hread
  rw [readScalar, String.toList_ofList, hread, Option.filter_some, if_pos]
  exact decide_eq_true ⟨hfits.1, hfits.2, rfl⟩

theorem oneTaskYamlCpp_reads : ReadsAsWritten oneTaskYamlCpp where
  asInt64 _ hfits := readScalar_writeInt hfits
  asInt32 _ hfits := readScalar_writeInt hfits
  asBool value := by cases value <;> decide

theorem oneTask_expressible {given : List TaskField} (hduration : TaskField.duration ∈ given)
    (hgiven : ∀ field ∈ given, field = .duration ∨ field = .deadline) :
    (oneTask given).Expressible oneTaskYamlCpp fun _ => none where
  id := by simp [oneTask]
  actors actor hactor := by
    obtain rfl := List.mem_singleton.mp hactor
    refine ⟨isWord_of_all (by decide) (by decide), List.mem_singleton.mpr rfl, ?_⟩
    intro field hfield
    obtain rfl := List.mem_singleton.mp hfield
    exact isWord_of_all (by decide) (by decide)
  tasks task htask := by
    obtain rfl := List.mem_singleton.mp htask
    have hid : IsWord "a".toList := isWord_of_all (by decide) (by decide)
    have hfive : Fits 64 5 := ⟨by decide, by decide⟩
    have htwenty : Fits 64 20 := ⟨by decide, by decide⟩
    refine ⟨hid, hduration, ?_⟩
    intro field hfield
    rcases hgiven field hfield with rfl | rfl
    · exact hfive
    · exact ⟨htwenty, (by decide : (0 : Int) < 20)⟩
  someActor := List.cons_ne_nil _ _
  someTask := List.cons_ne_nil _ _
  actorIds := List.nodup_singleton _
  taskIds := List.nodup_singleton _
  dependencies task htask id hid := by
    obtain rfl := List.mem_singleton.mp htask
    simp [TaskDescription.model, TaskDescription.upTo] at hid
  mutexes task htask id hid := by
    obtain rfl := List.mem_singleton.mp htask
    simp [TaskDescription.model, TaskDescription.upTo] at hid

theorem one_view_with_deadline :
    Accepts (fun _ => none) (oneTask [.duration, .deadline]).textForm
      (toModel (loadConfigFromString oneTaskYamlCpp (oneTaskYaml ++ "    deadline: 20\n"))) := by
  have hexpressible : (oneTask [.duration, .deadline]).Expressible oneTaskYamlCpp fun _ => none :=
    oneTask_expressible (by decide) (by decide)
  apply (one_view_iff _ _ _ _ oneTaskYamlCpp_reads hexpressible rfl).mpr
  intro task htask
  obtain rfl := List.mem_singleton.mp htask
  exact Or.inl (by decide)

/-- A task without a deadline gets one from the document, and none from the text. -/
theorem two_views_without_deadline :
    ReadsAsWritten oneTaskYamlCpp ∧
    (oneTask [.duration]).Expressible oneTaskYamlCpp (fun _ => none) ∧
      oneTaskYamlCpp.load oneTaskYaml = some (oneTask [.duration]).yamlForm ∧
      ¬Accepts (fun _ => none) (oneTask [.duration]).textForm
        (toModel (loadConfigFromString oneTaskYamlCpp oneTaskYaml)) := by
  have hexpressible : (oneTask [.duration]).Expressible oneTaskYamlCpp fun _ => none :=
    oneTask_expressible (by decide) (by decide)
  refine ⟨oneTaskYamlCpp_reads, hexpressible, rfl, ?_⟩
  intro haccepted
  have hparsed := accepts_iff.mp haccepted
  rw [accepts_iff.mp (textForm_accepted hexpressible)] at hparsed
  have hdeadlines :=
    congrArg (fun model => model.tasks.map OptimizerTask.deadline) (Except.ok.inj hparsed)
  have hloaded : (toModel (loadConfigFromString oneTaskYamlCpp oneTaskYaml)).tasks.map
      OptimizerTask.deadline = [some 1005] := by decide
  rw [hloaded] at hdeadlines
  exact absurd hdeadlines (by decide)

end TaskOrchestrator.App
