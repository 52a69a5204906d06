import TaskOrchestrator.Library.Text
import TaskOrchestrator.Optimizer.Model

/-!
# The controlled workflow language

The parser of text requests. A line names the workflow, opens a section, or declares an actor or a
task with fields and values; everything else is an error that names the line. Conversions of
numbers throw where the standard library does, and an exception leaves the parser.

Reading a `double` is a parameter: it decides nothing but the value of three cost fields.
-/

namespace TaskOrchestrator.Optimizer

open Library TaskOrchestrator.Core

set_option autoImplicit false

/-- What ends the parsing of a line: an error of the language, or an exception. -/
inductive ParseFailure where
  | error (message : String)
  | thrown
  deriving DecidableEq

structure ParseResult where
  ok : Bool := false
  model : OptimizationModel := {}
  errorMessage : String := ""

def kDefaultAvailabilityWindowStart : Time := 0
def kDefaultAvailabilityWindowEnd : Time := 1000000
def kWorkflowPrefix : List Char := "workflow ".toList
def kIdPrefix : List Char := "id:".toList
def kActorsSection : List Char := "actors".toList
def kTasksSection : List Char := "tasks".toList
def kLineItemPrefix : List Char := "- ".toList

/-- `std::isspace` of the classic locale. -/
def isSpace (c : Char) : Bool :=
  c = ' ' || c = '\t' || c = '\n' || c = '\r' || c.toNat = 11 || c.toNat = 12

theorem isSpace_of_isDigit {c : Char} (h : c.isDigit = true) : isSpace c = false := by
  have hrange : 48 ≤ c.toNat ∧ c.toNat ≤ 57 := Char.isDigit_iff_toNat.mp h
  have hne : ∀ blank : Char, blank.toNat < 48 → c ≠ blank := by
    rintro blank hlt rfl
    omega
  simp [isSpace, hne ' ' (by decide), hne '\t' (by decide), hne '\n' (by decide),
    hne '\r' (by decide)]
  omega

def trim (value : List Char) : List Char := Text.trim isSpace value

def split (input : List Char) (delimiter : Char) : List (List Char) :=
  ((Text.pieces (fun c => c = delimiter) input).map trim).filter fun item => !item.isEmpty

def tokenize (line : List Char) : List (List Char) := Text.words isSpace line

/-- The number that a text begins with, of a type with the given number of bits. -/
def readNumber (bits : Nat) (value : List Char) : Except ParseFailure Int :=
  match Text.readInt (value.dropWhile isSpace) with
  | none => .error .thrown
  | some n => if -2 ^ (bits - 1) ≤ n ∧ n < 2 ^ (bits - 1) then .ok n else .error .thrown

def stoll (value : List Char) : Except ParseFailure Int := readNumber 64 value

def stoi (value : List Char) : Except ParseFailure Int := readNumber 32 value

/-- What is before and after the first occurrence of a character. -/
def cutAt (delimiter : Char) (part : List Char) : List Char × List Char :=
  (part.takeWhile fun c => c ≠ delimiter, (part.dropWhile fun c => c ≠ delimiter).drop 1)

def parseWindow (part : List Char) : Except ParseFailure AvailabilityWindow := do
  let (before, after) := cutAt '-' part
  let start ← stoll before
  let stop ← stoll after
  pure { start := start, stop := stop }

def parseWindows (spec : List Char) : Except ParseFailure (List AvailabilityWindow) :=
  ((split spec ',').filter fun part => '-' ∈ part).mapM parseWindow

def parseDistance (distances : Dictionary ActorId Time) (part : List Char) :
    Except ParseFailure (Dictionary ActorId Time) := do
  let (before, after) := cutAt '=' part
  let distance ← stoll (trim after)
  pure (distances.assign (String.ofList (trim before)) distance)

def parseDistances (spec : List Char) : Except ParseFailure (Dictionary ActorId Time) :=
  ((split spec ',').filter fun part => '=' ∈ part).foldlM parseDistance .empty

def splitNames (value : List Char) : List String := (split value ',').map String.ofList

def firstDuplicate (seen : List String) : List String → Option String
  | [] => none
  | id :: rest => if id ∈ seen then some id else firstDuplicate (id :: seen) rest

def validateReferences (taskIds : List TaskId) (task : OptimizerTask) : Option String :=
  ((task.dependencyTaskIds.find? fun id => id ∉ taskIds).map fun id =>
    "Task '" ++ task.id ++ "' depends on unknown task '" ++ id ++ "'.").or
  ((task.mutuallyExclusiveTaskIds.find? fun id => id ∉ taskIds).map fun id =>
    "Task '" ++ task.id ++ "' declares unknown mutex task '" ++ id ++ "'.")

def validateModel (model : OptimizationModel) : Option String :=
  ((firstDuplicate [] (model.actors.map OptimizerActor.id)).map fun id =>
    "Duplicate actor id '" ++ id ++ "' in controlled workflow request.").or <|
  ((firstDuplicate [] (model.tasks.map OptimizerTask.id)).map fun id =>
    "Duplicate task id '" ++ id ++ "' in controlled workflow request.").or <|
  model.tasks.findSome? (validateReferences (model.tasks.map OptimizerTask.id))

def unknownFieldError (entityKind field : String) (lineNumber : Nat) : String :=
  "Unknown " ++ entityKind ++ " field '" ++ field ++ "' on line " ++ toString lineNumber ++ "."

def missingValueError (entityKind field : String) (lineNumber : Nat) : String :=
  "Missing value for " ++ entityKind ++ " field '" ++ field ++ "' on line " ++
    toString lineNumber ++ "."

def parseFields {φ α : Type} (entityKind : String) (allowedField : String → Option φ)
    (setField : φ → List Char → α → Except ParseFailure α) (lineNumber : Nat) :
    List (List Char) → α → Except ParseFailure α
  | [], declared => .ok declared
  | [field], _ =>
    match allowedField (String.ofList field) with
    | none => .error (.error (unknownFieldError entityKind (String.ofList field) lineNumber))
    | some _ => .error (.error (missingValueError entityKind (String.ofList field) lineNumber))
  | field :: value :: rest, declared =>
    match allowedField (String.ofList field) with
    | none => .error (.error (unknownFieldError entityKind (String.ofList field) lineNumber))
    | some known => do
      let declared ← setField known value declared
      parseFields entityKind allowedField setField lineNumber rest declared

inductive ActorField where
  | type
  | capacity
  | windows
  | capabilities
  | cost
  deriving DecidableEq

def actorField : String → Option ActorField
  | "type" => some .type
  | "capacity" => some .capacity
  | "windows" => some .windows
  | "capabilities" => some .capabilities
  | "cost" => some .cost
  | _ => none

inductive TaskField where
  | duration
  | release
  | latestStart
  | deadline
  | priority
  | requiresType
  | allowedActor
  | preferredActor
  | dependsOn
  | distances
  | mandatory
  | preemptible
  | demand
  | requiresCapabilities
  | mutex
  | tardinessCost
  | earlyStartBonus
  deriving DecidableEq

def taskField : String → Option TaskField
  | "duration" => some .duration
  | "release" => some .release
  | "latest_start" => some .latestStart
  | "deadline" => some .deadline
  | "priority" => some .priority
  | "requires_type" => some .requiresType
  | "requires_types" => some .requiresType
  | "allowed_actor" => some .allowedActor
  | "allowed_actors" => some .allowedActor
  | "preferred_actor" => some .preferredActor
  | "preferred_actors" => some .preferredActor
  | "depends_on" => some .dependsOn
  | "depends" => some .dependsOn
  | "distances" => some .distances
  | "distance" => some .distances
  | "mandatory" => some .mandatory
  | "preemptible" => some .preemptible
  | "demand" => some .demand
  | "requires_capabilities" => some .requiresCapabilities
  | "mutex" => some .mutex
  | "tardiness_cost" => some .tardinessCost
  | "early_start_bonus" => some .earlyStartBonus
  | _ => none

section Declarations

variable (stod : List Char → Option Rat)

def readDouble (value : List Char) : Except ParseFailure Rat :=
  match stod value with
  | none => .error .thrown
  | some x => .ok x

def setActorField (field : ActorField) (value : List Char) (actor : OptimizerActor) :
    Except ParseFailure OptimizerActor :=
  match field with
  | .type => .ok { actor with type := String.ofList value }
  | .capacity => (stoi value).map fun n => { actor with capacity := n }
  | .windows => (parseWindows value).map fun windows =>
    { actor with availabilityWindows := windows }
  | .capabilities => .ok { actor with capabilities := splitNames value }
  | .cost => (readDouble stod value).map fun x => { actor with executionCostPerUnit := x }

def withDefaultWindow (actor : OptimizerActor) : OptimizerActor :=
  if actor.availabilityWindows = [] then
    { actor with
      availabilityWindows :=
        [{ start := kDefaultAvailabilityWindowStart, stop := kDefaultAvailabilityWindowEnd }] }
  else actor

def finishActor (lineNumber : Nat) (actor : OptimizerActor) : Except ParseFailure OptimizerActor :=
  if actor.id = "" then
    .error (.error ("Actor id must not be empty on line " ++ toString lineNumber ++ "."))
  else if actor.type = "" then
    .error
      (.error ("Actor type is required for actor '" ++ actor.id ++ "' on line " ++
        toString lineNumber ++ "."))
  else .ok (withDefaultWindow actor)

def parseActorLine (line : List Char) (lineNumber : Nat) : Except ParseFailure OptimizerActor :=
  match tokenize line with
  | keyword :: id :: fields =>
    if keyword ≠ "actor".toList then
      .error (.error ("Invalid actor declaration on line " ++ toString lineNumber ++ "."))
    else
      parseFields "actor" actorField (setActorField stod) lineNumber fields
        { id := String.ofList id } >>= finishActor lineNumber
  | _ => .error (.error ("Invalid actor declaration on line " ++ toString lineNumber ++ "."))

structure DeclaredTask where
  task : OptimizerTask
  sawDuration : Bool := false

def setOnTask (field : TaskField) (value : List Char) (task : OptimizerTask) :
    Except ParseFailure OptimizerTask :=
  match field with
  | .duration => (stoll value).map fun n => { task with duration := n }
  | .release => (stoll value).map fun n => { task with releaseTime := n }
  | .latestStart => (stoll value).map fun n => { task with latestStartTime := some n }
  | .deadline => (stoll value).map fun n => { task with deadline := some n }
  | .priority => (stoi value).map fun n => { task with priority := n }
  | .requiresType => .ok { task with allowedActorTypes := splitNames value }
  | .allowedActor => .ok { task with allowedActorIds := splitNames value }
  | .preferredActor => .ok { task with preferredActorIds := splitNames value }
  | .dependsOn => .ok { task with dependencyTaskIds := splitNames value }
  | .distances => (parseDistances value).map fun distances =>
    { task with actorDistances := distances }
  | .mandatory => .ok { task with mandatory := value = "true".toList }
  | .preemptible => .ok { task with preemptible := value = "true".toList }
  | .demand => (stoi value).map fun n => { task with demand := n }
  | .requiresCapabilities => .ok { task with requiredCapabilities := splitNames value }
  | .mutex => .ok { task with mutuallyExclusiveTaskIds := splitNames value }
  | .tardinessCost => (readDouble stod value).map fun x => { task with tardinessCostPerUnit := x }
  | .earlyStartBonus => (readDouble stod value).map fun x => { task with earlyStartBonus := x }

def setTaskField (field : TaskField) (value : List Char) (declared : DeclaredTask) :
    Except ParseFailure DeclaredTask :=
  (setOnTask stod field value declared.task).map fun task =>
    { task := task, sawDuration := declared.sawDuration || field = .duration }

def finishTask (lineNumber : Nat) (declared : DeclaredTask) : Except ParseFailure OptimizerTask :=
  if declared.task.id = ""
    then .error (.error ("Task id must not be empty on line " ++ toString lineNumber ++ "."))
  else if declared.sawDuration = false then
    .error (.error ("Task duration is required for task '" ++ declared.task.id ++ "' on line " ++
      toString lineNumber ++ "."))
  else .ok declared.task

def parseTaskLine (line : List Char) (lineNumber : Nat) : Except ParseFailure OptimizerTask :=
  match tokenize line with
  | keyword :: id :: fields =>
    if keyword ≠ "task".toList then
      .error (.error ("Invalid task declaration on line " ++ toString lineNumber ++ "."))
    else
      parseFields "task" taskField (setTaskField stod) lineNumber fields
        { task := { id := String.ofList id } } >>= finishTask lineNumber
  | _ => .error (.error ("Invalid task declaration on line " ++ toString lineNumber ++ "."))

inductive Section where
  | none
  | actors
  | tasks
  deriving DecidableEq

structure ParserState where
  model : OptimizationModel := { id := "workflow" }
  openSection : Section := .none

def isSectionLine (line name : List Char) : Bool := line = name || line = name ++ [':']

def parseDeclaration (s : ParserState) (lineNumber : Nat) (line : List Char) :
    Except ParseFailure ParserState :=
  if (s.openSection = .actors && "actor ".toList.isPrefixOf line) || "actor ".toList.isPrefixOf line
    then
    (parseActorLine stod line lineNumber).map fun actor =>
      { s with model := { s.model with actors := s.model.actors ++ [actor] } }
  else if (s.openSection = .tasks && "task ".toList.isPrefixOf line) ||
    "task ".toList.isPrefixOf line then
    (parseTaskLine stod line lineNumber).map fun task =>
      { s with model := { s.model with tasks := s.model.tasks ++ [task] } }
  else .error (.error ("Unrecognized input on line " ++ toString lineNumber ++
    ". The parser only supports the controlled workflow language."))

def parseLine (s : ParserState) (entry : List Char × Nat) : Except ParseFailure ParserState :=
  let (rawLine, lineNumber) := entry
  let line := trim rawLine
  if line = [] ∨ "#".toList.isPrefixOf line then .ok s
  else if kWorkflowPrefix.isPrefixOf line then
    .ok { s with
      model := { s.model with id := String.ofList (trim (line.drop kWorkflowPrefix.length)) } }
  else if kIdPrefix.isPrefixOf line then
    .ok { s with model := { s.model with id := String.ofList (trim (line.drop kIdPrefix.length)) } }
  else if isSectionLine line kActorsSection then .ok { s with openSection := .actors }
  else if isSectionLine line kTasksSection then .ok { s with openSection := .tasks }
  else if kLineItemPrefix.isPrefixOf line then
    parseDeclaration stod s lineNumber (trim (line.drop kLineItemPrefix.length))
  else parseDeclaration stod s lineNumber line

def parseLines (request : String) : Except ParseFailure ParserState :=
  ((Text.pieces (fun c => c = '\n') request.toList).zipIdx 1).foldlM (parseLine stod) {}

def finishRequest (s : ParserState) : Except ParseFailure OptimizationModel :=
  if s.model.actors = []
    then .error (.error "No actors were parsed from the natural-language request.")
  else if s.model.tasks.isEmpty
    then .error (.error "No tasks were parsed from the natural-language request.")
  else match validateModel s.model with
    | some validationError => .error (.error validationError)
    | none => .ok s.model

def parseRequest (request : String) : Except ParseFailure OptimizationModel :=
  parseLines stod request >>= finishRequest

/-- `none` is an exception that leaves the function. -/
def parseNaturalLanguageRequest (request : String) : Option ParseResult :=
  match parseRequest stod request with
  | .ok model => some { ok := true, model := model }
  | .error (.error message) => some { errorMessage := message }
  | .error .thrown => none

end Declarations

section Accepted

variable {stod : List Char → Option Rat}

theorem map_eq_ok {ε α β : Type} {f : α → β} {x : Except ε α} {b : β} :
    x.map f = .ok b ↔ ∃ a, x = .ok a ∧ f a = b := by
  cases x with
  | error e => simp [Except.map]
  | ok a => simp [Except.map]

theorem bind_eq_ok {ε α β : Type} {f : α → Except ε β} {x : Except ε α} {b : β} :
    (x >>= f) = .ok b ↔ ∃ a, x = .ok a ∧ f a = .ok b := by
  cases x with
  | error e => simp [Bind.bind, Except.bind]
  | ok a => simp [Bind.bind, Except.bind]

theorem parseFields_keeps {φ α : Type} {entityKind : String} {allowedField : String → Option φ}
    {setField : φ → List Char → α → Except ParseFailure α} {lineNumber : Nat} {P : α → Prop}
    (hset : ∀ field value a b, setField field value a = .ok b → P a → P b)
    {fields : List (List Char)} {a b : α}
    (h : parseFields entityKind allowedField setField lineNumber fields a = .ok b)
    (ha : P a) : P b := by
  fun_induction parseFields entityKind allowedField setField lineNumber fields a with
  | case1 declared => exact Except.ok.inj h ▸ ha
  | case2 field _ hunknown => exact absurd h (by simp)
  | case3 field _ known hknown => exact absurd h (by simp)
  | case4 field value rest declared hunknown => exact absurd h (by simp)
  | case5 field value rest declared known hknown ih =>
    obtain ⟨next, hnext, hrest⟩ := bind_eq_ok.mp h
    exact ih next hrest (hset _ _ _ _ hnext ha)

theorem readNumber_range {bits : Nat} {value : List Char} {n : Int}
    (h : readNumber bits value = .ok n) :
    -2 ^ (bits - 1) ≤ n ∧ n < 2 ^ (bits - 1) := by
  unfold readNumber at h
  split at h
  · exact absurd h (by simp)
  · split_ifs at h with hrange
    exact Except.ok.inj h ▸ hrange

def PriorityFits (task : OptimizerTask) : Prop := -2 ^ 31 ≤ task.priority ∧ task.priority < 2 ^ 31

/-- Only one field sets the priority, to a number that `stoi` has checked. -/
theorem setOnTask_priorityFits {field : TaskField} {value : List Char}
    {before after : OptimizerTask} (h : setOnTask stod field value before = .ok after)
    (hbefore : PriorityFits before) : PriorityFits after := by
  cases field with
  | priority =>
    obtain ⟨n, hn, rfl⟩ := map_eq_ok.mp h
    exact readNumber_range hn
  | duration | release | latestStart | deadline | distances | demand | tardinessCost
    | earlyStartBonus =>
    obtain ⟨_, _, rfl⟩ := map_eq_ok.mp h
    exact hbefore
  | requiresType | allowedActor | preferredActor | dependsOn | mandatory | preemptible
    | requiresCapabilities | mutex =>
    obtain rfl := Except.ok.inj h
    exact hbefore

theorem parseTaskLine_priorityFits {line : List Char} {lineNumber : Nat} {task : OptimizerTask}
    (h : parseTaskLine stod line lineNumber = .ok task) : PriorityFits task := by
  unfold parseTaskLine at h
  split at h
  · rename_i keyword id fields _
    split_ifs at h
    obtain ⟨declared, hfields, hrest⟩ := bind_eq_ok.mp h
    have hfits : PriorityFits declared.task := by
      refine parseFields_keeps (P := fun declared => PriorityFits declared.task) ?_ hfields ?_
      · intro field value before after hset hbefore
        obtain ⟨task, htask, rfl⟩ := map_eq_ok.mp hset
        exact setOnTask_priorityFits htask hbefore
      · exact (by decide : -2 ^ 31 ≤ (0 : Int) ∧ (0 : Int) < 2 ^ 31)
    unfold finishTask at hrest
    split_ifs at hrest
    exact Except.ok.inj hrest ▸ hfits
  · exact absurd h (by simp)

theorem parseLine_priorityFits {s next : ParserState} {entry : List Char × Nat}
    (h : parseLine stod s entry = .ok next) (hs : ∀ task ∈ s.model.tasks, PriorityFits task) :
    ∀ task ∈ next.model.tasks, PriorityFits task := by
  have hdeclaration : ∀ line, parseDeclaration stod s entry.2 line = .ok next →
      ∀ task ∈ next.model.tasks, PriorityFits task := by
    intro line hline
    unfold parseDeclaration at hline
    split_ifs at hline
    · obtain ⟨actor, -, rfl⟩ := map_eq_ok.mp hline
      exact hs
    · obtain ⟨parsed, hparsed, rfl⟩ := map_eq_ok.mp hline
      intro task htask
      rcases List.mem_append.mp htask with htask | htask
      · exact hs task htask
      · obtain rfl := List.mem_singleton.mp htask
        exact parseTaskLine_priorityFits hparsed
  unfold parseLine at h
  dsimp only at h
  split_ifs at h
  · exact Except.ok.inj h ▸ hs
  · exact Except.ok.inj h ▸ hs
  · exact Except.ok.inj h ▸ hs
  · exact Except.ok.inj h ▸ hs
  · exact Except.ok.inj h ▸ hs
  · exact hdeclaration _ h
  · exact hdeclaration _ h

theorem parseLines_priorityFits {entries : List (List Char × Nat)} {s final : ParserState}
    (h : entries.foldlM (parseLine stod) s = .ok final)
    (hs : ∀ task ∈ s.model.tasks, PriorityFits task) :
    ∀ task ∈ final.model.tasks, PriorityFits task := by
  induction entries generalizing s with
  | nil => exact Except.ok.inj h ▸ hs
  | cons entry rest ih =>
    obtain ⟨next, hnext, hrest⟩ := bind_eq_ok.mp h
    exact ih hrest (parseLine_priorityFits hnext hs)

def Accepts (stod : List Char → Option Rat) (request : String) (model : OptimizationModel) : Prop :=
  parseNaturalLanguageRequest stod request = some { ok := true, model := model }

theorem accepts_iff {request : String} {model : OptimizationModel} :
    Accepts stod request model ↔ parseRequest stod request = .ok model := by
  unfold Accepts parseNaturalLanguageRequest
  split
  · rename_i parsed hparsed
    simp [hparsed]
  · rename_i message hparsed
    simp [hparsed]
  · rename_i hparsed
    simp [hparsed]

theorem priorityFits_of_accepts {request : String} {model : OptimizationModel}
    (h : Accepts stod request model) :
    ∀ task ∈ model.tasks, PriorityFits task := by
  obtain ⟨s, hs, hrest⟩ := bind_eq_ok.mp (accepts_iff.mp h)
  have hfits := parseLines_priorityFits hs (by simp)
  unfold finishRequest at hrest
  split_ifs at hrest
  cases hvalid : validateModel s.model with
  | some validationError => exact absurd hrest (by simp [hvalid])
  | none =>
    simp only [hvalid] at hrest
    exact Except.ok.inj hrest ▸ hfits

end Accepted

end TaskOrchestrator.Optimizer
