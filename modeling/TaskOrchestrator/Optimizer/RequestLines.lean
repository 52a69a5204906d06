import TaskOrchestrator.Library.Loops
import TaskOrchestrator.Optimizer.NlpParser

/-!
# What the lines of a request say

A line is skipped, names the workflow, declares an actor or a task by its tokens, or is not
recognized. Which of these it is does not depend on the lines before it: the open section decides
nothing. So a request is accepted exactly with the model that its recognized lines describe.
-/

namespace TaskOrchestrator.Optimizer

open Library TaskOrchestrator.Core

set_option autoImplicit false

inductive RequestLine where
  | skipped
  | title (id : String)
  | actor (tokens : List (List Char))
  | task (tokens : List (List Char))
  | unrecognized
  deriving DecidableEq

namespace RequestLine

def title? : RequestLine → Option String
  | title id => some id
  | _ => none

def actor? : RequestLine → Option (List (List Char))
  | actor tokens => some tokens
  | _ => none

def task? : RequestLine → Option (List (List Char))
  | task tokens => some tokens
  | _ => none

end RequestLine

/-- A line that is left after the bullet is taken off. -/
def readDeclaration (line : List Char) : RequestLine :=
  if "actor ".toList.isPrefixOf line then .actor (tokenize line)
  else if "task ".toList.isPrefixOf line then .task (tokenize line)
  else .unrecognized

def readTrimmed (line : List Char) : RequestLine :=
  if line = [] ∨ "#".toList.isPrefixOf line then .skipped
  else if kWorkflowPrefix.isPrefixOf line
    then .title (String.ofList (trim (line.drop kWorkflowPrefix.length)))
  else if kIdPrefix.isPrefixOf line then .title (String.ofList (trim (line.drop kIdPrefix.length)))
  else if isSectionLine line kActorsSection ∨ isSectionLine line kTasksSection then .skipped
  else if kLineItemPrefix.isPrefixOf line
    then readDeclaration (trim (line.drop kLineItemPrefix.length))
  else readDeclaration line

def readLine (rawLine : List Char) : RequestLine := readTrimmed (trim rawLine)

def rawLines (request : String) : List (List Char) := Text.pieces (fun c => c = '\n') request.toList

def requestLines (request : String) : List RequestLine := (rawLines request).map readLine

section Lines

variable (stod : List Char → Option Rat)

def declaredActor (tokens : List (List Char)) (lineNumber : Nat) :
    Except ParseFailure OptimizerActor :=
  match tokens with
  | keyword :: id :: fields =>
    if keyword ≠ "actor".toList then
      .error (.error ("Invalid actor declaration on line " ++ toString lineNumber ++ "."))
    else
      parseFields "actor" actorField (setActorField stod) lineNumber fields
        { id := String.ofList id } >>= finishActor lineNumber
  | _ => .error (.error ("Invalid actor declaration on line " ++ toString lineNumber ++ "."))

def declaredTask (tokens : List (List Char)) (lineNumber : Nat) :
    Except ParseFailure OptimizerTask :=
  match tokens with
  | keyword :: id :: fields =>
    if keyword ≠ "task".toList then
      .error (.error ("Invalid task declaration on line " ++ toString lineNumber ++ "."))
    else
      parseFields "task" taskField (setTaskField stod) lineNumber fields
        { task := { id := String.ofList id } } >>= finishTask lineNumber
  | _ => .error (.error ("Invalid task declaration on line " ++ toString lineNumber ++ "."))

def applyLine (model : OptimizationModel) (entry : RequestLine × Nat) :
    Except ParseFailure OptimizationModel :=
  match entry.1 with
  | .skipped => .ok model
  | .title id => .ok { model with id := id }
  | .actor tokens => (declaredActor stod tokens entry.2).map fun actor =>
    { model with actors := model.actors ++ [actor] }
  | .task tokens => (declaredTask stod tokens entry.2).map fun task =>
    { model with tasks := model.tasks ++ [task] }
  | .unrecognized => .error (.error ("Unrecognized input on line " ++ toString entry.2 ++
      ". The parser only supports the controlled workflow language."))

def finishModel (model : OptimizationModel) : Except ParseFailure OptimizationModel :=
  finishRequest { model := model }

variable {stod}

theorem parseDeclaration_model (s : ParserState) (lineNumber : Nat) (line : List Char) :
    (parseDeclaration stod s lineNumber line).map ParserState.model =
      applyLine stod s.model (readDeclaration line, lineNumber) := by
  unfold parseDeclaration readDeclaration
  cases hactor : "actor ".toList.isPrefixOf line with
  | true =>
    simp only [Bool.and_true, Bool.or_true, if_true, applyLine]
    change Except.map _ (Except.map _ (declaredActor stod (tokenize line) lineNumber)) = _
    cases declaredActor stod (tokenize line) lineNumber <;> rfl
  | false =>
    cases htask : "task ".toList.isPrefixOf line with
    | true =>
      simp only [Bool.and_false, Bool.and_true, Bool.or_true, Bool.or_false, Bool.false_eq_true,
        if_true, if_false, applyLine]
      change Except.map _ (Except.map _ (declaredTask stod (tokenize line) lineNumber)) = _
      cases declaredTask stod (tokenize line) lineNumber <;> rfl
    | false =>
      simp only [Bool.and_false, Bool.or_false, Bool.false_eq_true, if_false]
      rfl

theorem parseLine_model (s : ParserState) (rawLine : List Char) (lineNumber : Nat) :
    (parseLine stod s (rawLine, lineNumber)).map ParserState.model =
      applyLine stod s.model (readLine rawLine, lineNumber) := by
  unfold parseLine readLine readTrimmed
  dsimp only
  by_cases hskipped : trim rawLine = [] ∨ "#".toList.isPrefixOf (trim rawLine) = true
  · rw [if_pos hskipped, if_pos hskipped]
    rfl
  · rw [if_neg hskipped, if_neg hskipped]
    by_cases hworkflow : kWorkflowPrefix.isPrefixOf (trim rawLine) = true
    · rw [if_pos hworkflow, if_pos hworkflow]
      rfl
    · rw [if_neg hworkflow, if_neg hworkflow]
      by_cases hid : kIdPrefix.isPrefixOf (trim rawLine) = true
      · rw [if_pos hid, if_pos hid]
        rfl
      · rw [if_neg hid, if_neg hid]
        by_cases hactors : isSectionLine (trim rawLine) kActorsSection = true
        · rw [if_pos hactors, if_pos (Or.inl hactors)]
          rfl
        · rw [if_neg hactors]
          by_cases htasks : isSectionLine (trim rawLine) kTasksSection = true
          · rw [if_pos htasks, if_pos (Or.inr htasks)]
            rfl
          · rw [if_neg htasks, if_neg (not_or.mpr ⟨hactors, htasks⟩)]
            split_ifs
            · exact parseDeclaration_model s lineNumber _
            · exact parseDeclaration_model s lineNumber _

theorem parseLines_model (entries : List (List Char × Nat)) (s : ParserState) :
    (entries.foldlM (parseLine stod) s).map ParserState.model =
      (entries.map fun entry => (readLine entry.1, entry.2)).foldlM (applyLine stod) s.model := by
  induction entries generalizing s with
  | nil => rfl
  | cons entry rest ih =>
    have hline := @parseLine_model stod s entry.1 entry.2
    rw [List.map_cons, List.foldlM_cons, List.foldlM_cons, ← hline]
    cases parseLine stod s (entry.1, entry.2) with
    | error failure => rfl
    | ok next => exact ih next

theorem parseRequest_eq (request : String) :
    parseRequest stod request =
      ((requestLines request).zipIdx 1).foldlM (applyLine stod) { id := "workflow" } >>=
        finishModel := by
  have hlines : (requestLines request).zipIdx 1 =
      ((rawLines request).zipIdx 1).map fun entry => (readLine entry.1, entry.2) := by
    rw [requestLines, List.zipIdx_map]
    rfl
  have hmodel := @parseLines_model stod ((rawLines request).zipIdx 1) {}
  rw [hlines, ← hmodel, parseRequest]
  change _ = Except.map ParserState.model (parseLines stod request) >>= finishModel
  cases parseLines stod request <;> rfl

theorem parseFields_lineNumber {φ α : Type} {entityKind : String} {allowedField : String → Option φ}
    {setField : φ → List Char → α → Except ParseFailure α} {lineNumber : Nat}
    {fields : List (List Char)} {a b : α}
    (h : parseFields entityKind allowedField setField lineNumber fields a = .ok b) (other : Nat) :
    parseFields entityKind allowedField setField other fields a = .ok b := by
  fun_induction parseFields entityKind allowedField setField lineNumber fields a with
  | case1 declared => exact h
  | case2 field _ hunknown => exact absurd h (by simp)
  | case3 field _ known hknown => exact absurd h (by simp)
  | case4 field value rest declared hunknown => exact absurd h (by simp)
  | case5 field value rest declared known hknown ih =>
    obtain ⟨next, hnext, hrest⟩ := bind_eq_ok.mp h
    rw [parseFields, hknown]
    exact bind_eq_ok.mpr ⟨next, hnext, ih next hrest⟩

/-- The tokens behind the id of a declaration, two by two. -/
def fieldValues : List (List Char) → List (List Char × List Char)
  | field :: value :: rest => (field, value) :: fieldValues rest
  | _ => []

def Gives {φ : Type} (allowedField : String → Option φ) (fields : List (List Char)) (known : φ)
    (value : List Char) : Prop :=
  ∃ field, (field, value) ∈ fieldValues fields ∧ allowedField (String.ofList field) = some known

theorem gives_cons {φ : Type} {allowedField : String → Option φ} {field value : List Char}
    {rest : List (List Char)} {known other : φ} {given : List Char}
    (hknown : allowedField (String.ofList field) = some known) :
    Gives allowedField (field :: value :: rest) other given ↔
      known = other ∧ value = given ∨ Gives allowedField rest other given := by
  unfold Gives
  rw [fieldValues]
  constructor
  · rintro ⟨name, hmem, hname⟩
    rcases List.mem_cons.mp hmem with heq | hmem
    · obtain ⟨rfl, rfl⟩ := Prod.mk.inj heq
      exact Or.inl ⟨Option.some.inj (hknown.symm.trans hname), rfl⟩
    · exact Or.inr ⟨name, hmem, hname⟩
  · rintro (⟨rfl, rfl⟩ | ⟨name, hmem, hname⟩)
    · exact ⟨field, List.mem_cons_self, hknown⟩
    · exact ⟨name, List.mem_cons_of_mem _ hmem, hname⟩

theorem parseFields_part {φ α β : Type} {entityKind : String} {allowedField : String → Option φ}
    {setField : φ → List Char → α → Except ParseFailure α} {lineNumber : Nat} (part : α → β)
    (Sets : List Char → β → Prop) {known : φ}
    (hset : ∀ {value a b}, setField known value a = .ok b → Sets value (part b))
    (hframe : ∀ {other value a b}, other ≠ known → setField other value a = .ok b → part b = part a)
    {fields : List (List Char)} {a b : α}
    (h : parseFields entityKind allowedField setField lineNumber fields a = .ok b) :
    (∃ value, Gives allowedField fields known value ∧ Sets value (part b)) ∨
      (∀ value, ¬ Gives allowedField fields known value) ∧ part b = part a := by
  fun_induction parseFields entityKind allowedField setField lineNumber fields a with
  | case1 declared =>
    obtain rfl := Except.ok.inj h
    exact Or.inr ⟨fun value => by simp [Gives, fieldValues], rfl⟩
  | case2 field _ hunknown => exact absurd h (by simp)
  | case3 field _ here hknown => exact absurd h (by simp)
  | case4 field value rest declared hunknown => exact absurd h (by simp)
  | case5 field value rest declared here hknown ih =>
    obtain ⟨next, hnext, hrest⟩ := bind_eq_ok.mp h
    rcases ih next hrest with ⟨given, hgiven, hsets⟩ | ⟨hnone, hpart⟩
    · exact Or.inl ⟨given, (gives_cons hknown).mpr (Or.inr hgiven), hsets⟩
    · by_cases hsame : here = known
      · subst hsame
        refine Or.inl ⟨value, (gives_cons hknown).mpr (Or.inl ⟨rfl, rfl⟩), ?_⟩
        rw [hpart]
        exact hset hnext
      · refine Or.inr ⟨fun given hgiven => ?_, hpart.trans (hframe hsame hnext)⟩
        rcases (gives_cons hknown).mp hgiven with ⟨heq, -⟩ | hgiven
        · exact hsame heq
        · exact hnone given hgiven

def ReadsActor (stod : List Char → Option Rat) (tokens : List (List Char))
    (actor : OptimizerActor) : Prop :=
  ∀ lineNumber, declaredActor stod tokens lineNumber = .ok actor

def ReadsTask (stod : List Char → Option Rat) (tokens : List (List Char))
    (task : OptimizerTask) : Prop :=
  ∀ lineNumber, declaredTask stod tokens lineNumber = .ok task

theorem declaredActor_eq_ok {tokens : List (List Char)} {lineNumber : Nat}
    {actor : OptimizerActor} :
    declaredActor stod tokens lineNumber = .ok actor ↔ ReadsActor stod tokens actor := by
  refine ⟨fun h other => ?_, fun h => h lineNumber⟩
  unfold declaredActor at h ⊢
  split at h
  · rename_i keyword id fields
    split_ifs at h ⊢
    obtain ⟨declared, hfields, hfinish⟩ := bind_eq_ok.mp h
    refine bind_eq_ok.mpr ⟨declared, parseFields_lineNumber hfields other, ?_⟩
    unfold finishActor at hfinish ⊢
    split_ifs at hfinish ⊢
    exact hfinish
  · exact absurd h (by simp)

theorem declaredTask_eq_ok {tokens : List (List Char)} {lineNumber : Nat} {task : OptimizerTask} :
    declaredTask stod tokens lineNumber = .ok task ↔ ReadsTask stod tokens task := by
  refine ⟨fun h other => ?_, fun h => h lineNumber⟩
  unfold declaredTask at h ⊢
  split at h
  · rename_i keyword id fields
    split_ifs at h ⊢
    obtain ⟨declared, hfields, hfinish⟩ := bind_eq_ok.mp h
    refine bind_eq_ok.mpr ⟨declared, parseFields_lineNumber hfields other, ?_⟩
    unfold finishTask at hfinish ⊢
    split_ifs at hfinish ⊢
    exact hfinish
  · exact absurd h (by simp)

/-- The lines are recognized and describe the model: the last title, and the declared actors and
tasks in their order. -/
structure Describes (stod : List Char → Option Rat) (lines : List RequestLine)
    (model : OptimizationModel) : Prop where
  recognized : RequestLine.unrecognized ∉ lines
  id : model.id = (lines.filterMap RequestLine.title?).getLastD "workflow"
  actors : List.Forall₂ (ReadsActor stod) (lines.filterMap RequestLine.actor?) model.actors
  tasks : List.Forall₂ (ReadsTask stod) (lines.filterMap RequestLine.task?) model.tasks

theorem foldlM_applyLine_iff {lines : List RequestLine} {lineNumber : Nat}
    {start model : OptimizationModel} :
    (lines.zipIdx lineNumber).foldlM (applyLine stod) start = .ok model ↔
      RequestLine.unrecognized ∉ lines ∧
      model.id = (lines.filterMap RequestLine.title?).getLastD start.id ∧
      (∃ actors, model.actors = start.actors ++ actors ∧
        List.Forall₂ (ReadsActor stod) (lines.filterMap RequestLine.actor?) actors) ∧
      ∃ tasks, model.tasks = start.tasks ++ tasks ∧
        List.Forall₂ (ReadsTask stod) (lines.filterMap RequestLine.task?) tasks := by
  induction lines generalizing lineNumber start with
  | nil =>
    simp only [List.zipIdx_nil, List.foldlM_nil, List.filterMap_nil, List.getLastD_nil,
      List.not_mem_nil, not_false_eq_true, true_and, List.forall₂_nil_left_iff, exists_eq_right,
      List.append_nil]
    constructor
    · intro h
      obtain rfl := Except.ok.inj h
      exact ⟨rfl, rfl, rfl⟩
    · rintro ⟨hid, hactors, htasks⟩
      cases start
      cases model
      simp_all [pure, Except.pure]
  | cons line rest ih =>
    rw [List.zipIdx_cons, List.foldlM_cons, bind_eq_ok, List.mem_cons, not_or]
    cases line with
    | skipped =>
      have hskip : applyLine stod start (.skipped, lineNumber) = .ok start := rfl
      simp only [hskip, Except.ok.injEq, exists_eq_left', ih]
      refine ⟨fun ⟨hrest, h⟩ => ⟨⟨RequestLine.noConfusion, hrest⟩, h⟩, fun ⟨⟨_, hrest⟩, h⟩ =>
        ⟨hrest, h⟩⟩
    | title id =>
      have htitle : applyLine stod start (.title id, lineNumber) =
          .ok { start with id := id } := rfl
      have htitles : (RequestLine.title id :: rest).filterMap RequestLine.title? =
          id :: rest.filterMap RequestLine.title? := rfl
      simp only [htitle, Except.ok.injEq, exists_eq_left', ih, htitles, List.getLastD_cons]
      refine ⟨fun ⟨hrest, h⟩ => ⟨⟨RequestLine.noConfusion, hrest⟩, h⟩, fun ⟨⟨_, hrest⟩, h⟩ =>
        ⟨hrest, h⟩⟩
    | actor tokens =>
      have hactors : (RequestLine.actor tokens :: rest).filterMap RequestLine.actor? =
          tokens :: rest.filterMap RequestLine.actor? := rfl
      simp only [applyLine, map_eq_ok, declaredActor_eq_ok, hactors, exists_append_forall₂_cons]
      constructor
      · rintro ⟨_, ⟨actor, hactor, rfl⟩, hrest⟩
        obtain ⟨hknown, hid, hactors, htasks⟩ := ih.mp hrest
        exact ⟨⟨RequestLine.noConfusion, hknown⟩, hid, ⟨actor, hactor, hactors⟩, htasks⟩
      · rintro ⟨⟨-, hknown⟩, hid, ⟨actor, hactor, hactors⟩, htasks⟩
        exact ⟨_, ⟨actor, hactor, rfl⟩, ih.mpr ⟨hknown, hid, hactors, htasks⟩⟩
    | task tokens =>
      have htasks : (RequestLine.task tokens :: rest).filterMap RequestLine.task? =
          tokens :: rest.filterMap RequestLine.task? := rfl
      simp only [applyLine, map_eq_ok, declaredTask_eq_ok, htasks, exists_append_forall₂_cons]
      constructor
      · rintro ⟨_, ⟨task, htask, rfl⟩, hrest⟩
        obtain ⟨hknown, hid, hactors, htasks⟩ := ih.mp hrest
        exact ⟨⟨RequestLine.noConfusion, hknown⟩, hid, hactors, task, htask, htasks⟩
      · rintro ⟨⟨-, hknown⟩, hid, hactors, task, htask, htasks⟩
        exact ⟨_, ⟨task, htask, rfl⟩, ih.mpr ⟨hknown, hid, hactors, htasks⟩⟩
    | unrecognized =>
      simp [applyLine]

theorem describes_iff {lines : List RequestLine} {model : OptimizationModel} :
    (lines.zipIdx 1).foldlM (applyLine stod) { id := "workflow" } = .ok model ↔
      Describes stod lines model := by
  rw [foldlM_applyLine_iff]
  constructor
  · rintro ⟨hknown, hid, ⟨actors, hactors, hreadActors⟩, tasks, htasks, hreadTasks⟩
    rw [List.nil_append] at hactors htasks
    exact ⟨hknown, hid, hactors ▸ hreadActors, htasks ▸ hreadTasks⟩
  · intro h
    exact ⟨h.recognized, h.id, ⟨model.actors, rfl, h.actors⟩, model.tasks, rfl, h.tasks⟩

theorem firstDuplicate_eq_none_iff {seen ids : List String} :
    firstDuplicate seen ids = none ↔ ids.Nodup ∧ ∀ id ∈ ids, id ∉ seen := by
  induction ids generalizing seen with
  | nil => simp [firstDuplicate]
  | cons id rest ih =>
    rw [firstDuplicate]
    split_ifs with hseen
    · simp [hseen]
    · rw [ih, List.nodup_cons]
      constructor
      · rintro ⟨hrest, hfresh⟩
        refine ⟨⟨fun hid => hfresh id hid List.mem_cons_self, hrest⟩, ?_⟩
        intro other hother
        rcases List.mem_cons.mp hother with rfl | hother
        · exact hseen
        · exact fun hmem => hfresh other hother (List.mem_cons_of_mem _ hmem)
      · rintro ⟨⟨hid, hrest⟩, hfresh⟩
        refine ⟨hrest, fun other hother hmem => ?_⟩
        rcases List.mem_cons.mp hmem with rfl | hmem
        · exact hid hother
        · exact hfresh other (List.mem_cons_of_mem _ hother) hmem

/-- Ids are unique, and every listed task is one of the model. -/
structure ValidReferences (model : OptimizationModel) : Prop where
  actors : (model.actors.map OptimizerActor.id).Nodup
  tasks : (model.tasks.map OptimizerTask.id).Nodup
  dependencies : ∀ task ∈ model.tasks, ∀ id ∈ task.dependencyTaskIds, ∃ other ∈ model.tasks,
    other.id = id
  exclusions : ∀ task ∈ model.tasks, ∀ id ∈ task.mutuallyExclusiveTaskIds, ∃ other ∈ model.tasks,
    other.id = id

theorem validateModel_eq_none_iff {model : OptimizationModel} :
    validateModel model = none ↔ ValidReferences model := by
  have hreferences : ∀ task : OptimizerTask,
      validateReferences (model.tasks.map OptimizerTask.id) task = none ↔
        (∀ id ∈ task.dependencyTaskIds, ∃ other ∈ model.tasks, other.id = id) ∧
          ∀ id ∈ task.mutuallyExclusiveTaskIds, ∃ other ∈ model.tasks, other.id = id := by
    intro task
    simp only [validateReferences, Option.or_eq_none_iff, Option.map_eq_none_iff,
      List.find?_eq_none, decide_eq_true_eq, not_not, List.mem_map]
  simp only [validateModel, Option.or_eq_none_iff, Option.map_eq_none_iff,
    firstDuplicate_eq_none_iff, List.findSome?_eq_none_iff, hreferences, List.not_mem_nil,
    not_false_eq_true, implies_true, and_true]
  constructor
  · rintro ⟨hactors, htasks, hlisted⟩
    exact ⟨hactors, htasks, fun task htask => (hlisted task htask).1, fun task htask =>
      (hlisted task htask).2⟩
  · intro h
    exact ⟨h.actors, h.tasks, fun task htask =>
      ⟨h.dependencies task htask, h.exclusions task htask⟩⟩

theorem finishModel_eq_ok {model finished : OptimizationModel} :
    finishModel model = .ok finished ↔
      finished = model ∧ model.actors ≠ [] ∧ model.tasks ≠ [] ∧ ValidReferences model := by
  rw [← validateModel_eq_none_iff, finishModel, finishRequest]
  dsimp only
  split_ifs with hactors htasks
  · simp [hactors]
  · simp [List.isEmpty_iff.mp htasks]
  · have htasks' : model.tasks ≠ [] := fun hnil => htasks (by simp [hnil])
    cases validateModel model with
    | none => simp [hactors, htasks', eq_comm]
    | some message => simp

/-- A request is accepted with a model exactly when its lines describe it and it passes the checks. -/
theorem accepts_iff_describes {request : String} {model : OptimizationModel} :
    Accepts stod request model ↔ Describes stod (requestLines request) model ∧ model.actors ≠ [] ∧
    model.tasks ≠ [] ∧
      ValidReferences model := by
  rw [accepts_iff, parseRequest_eq, bind_eq_ok]
  simp only [describes_iff, finishModel_eq_ok]
  constructor
  · rintro ⟨described, hdescribes, rfl, hrest⟩
    exact ⟨hdescribes, hrest⟩
  · rintro ⟨hdescribes, hrest⟩
    exact ⟨model, hdescribes, rfl, hrest⟩

end Lines

def actorLine : List Char := "actor x type robot".toList

def taskLine : List Char := "task a duration 5".toList

def plainRequest : String := "actor x type robot\ntask a duration 5"

def plainModel : OptimizationModel where
  id := "workflow"
  actors :=
    [{ id := "x", type := "robot", availabilityWindows := [{ start := 0, stop := 1000000 }] }]
  tasks := [{ id := "a", duration := 5 }]

theorem accepts_plainModel (stod : List Char → Option Rat) {request : String}
    (hlines : requestLines request = [readLine actorLine, readLine taskLine]) :
    Accepts stod request plainModel := by
  refine accepts_iff_describes.mpr ⟨?_, by decide, by decide, validateModel_eq_none_iff.mp rfl⟩
  rw [hlines]
  exact ⟨by decide, rfl, .cons (fun _ => rfl) .nil, .cons (fun _ => rfl) .nil⟩

end TaskOrchestrator.Optimizer
