import TaskOrchestrator.Optimizer.RequestLines

/-!
# How the parser ends

A request is accepted, or an error names what is wrong with it, or a conversion throws and the
exception leaves the parser. It throws exactly if the first line with something wrong has a known
field whose value does not convert, with known fields only in front of it.
-/

namespace TaskOrchestrator.Optimizer

open Library TaskOrchestrator.Core

set_option autoImplicit false

/-- A result comes back, an exception leaves, and errors have a text. -/
structure Outcome {α : Type} (x : Except ParseFailure α) (Succeeds Throws : Prop) : Prop where
  ok : (∃ a, x = .ok a) ↔ Succeeds
  thrown : x = .error .thrown ↔ Throws
  text : ∀ message, x = .error (.error message) → message ≠ ""

namespace Outcome

variable {α β : Type} {S T S' T' : Prop}

theorem congr {x : Except ParseFailure α} (h : Outcome x S T) (hS : S ↔ S') (hT : T ↔ T') :
    Outcome x S' T' :=
  ⟨h.ok.trans hS, h.thrown.trans hT, h.text⟩

theorem of_ok (a : α) : Outcome (.ok a) True False := ⟨by simp, by simp, by simp⟩

theorem of_thrown :
    Outcome (.error .thrown : Except ParseFailure α) False True := ⟨by simp, by simp, by simp⟩

theorem of_error {message : String} (h : message ≠ "") :
    Outcome (.error (.error message) : Except ParseFailure α) False False := by
  refine ⟨by simp, by simp, ?_⟩
  intro other heq
  obtain rfl := ParseFailure.error.inj (Except.error.inj heq)
  exact h

theorem map {x : Except ParseFailure α} (h : Outcome x S T) (f : α → β) :
    Outcome (x.map f) S T := by
  obtain ⟨hok, hthrown, htext⟩ := h
  cases x with
  | error failure =>
    exact ⟨by simpa [Except.map] using hok, by simpa [Except.map] using hthrown, by
      simpa [Except.map] using htext⟩
  | ok a =>
    exact ⟨by simpa [Except.map] using hok, by simpa [Except.map] using hthrown, by
      simp [Except.map]⟩

theorem bind {x : Except ParseFailure α} {f : α → Except ParseFailure β} (hx : Outcome x S T)
    (hf : ∀ a, x = .ok a → Outcome (f a) S' T') : Outcome (x >>= f) (S ∧ S') (T ∨ S ∧ T') := by
  obtain ⟨hok, hthrown, htext⟩ := hx
  cases x with
  | error failure =>
    have hnot : ¬ S := fun hS => by simpa using hok.mpr hS
    change Outcome (.error failure) _ _
    refine ⟨by simp [hnot], ?_, ?_⟩
    · simpa [hnot] using hthrown
    · simpa using htext
  | ok a =>
    have hS : S := hok.mp ⟨a, rfl⟩
    have hT : ¬ T := fun hT => by simpa using hthrown.mpr hT
    exact (hf a rfl).congr (by simp [hS]) (by simp [hS, hT])

theorem mapM {f : α → Except ParseFailure β} {Fits : α → Prop}
    (hf : ∀ a, Outcome (f a) (Fits a) (¬ Fits a)) (items : List α) :
    Outcome (items.mapM f) (∀ a ∈ items, Fits a) (¬ ∀ a ∈ items, Fits a) := by
  induction items with
  | nil => exact (of_ok []).congr (by simp) (by simp)
  | cons a rest ih =>
    rw [List.mapM_cons]
    refine ((hf a).bind fun b _ => ih.bind fun bs _ => of_ok (b :: bs)).congr ?_ ?_
    · simp
    · rw [List.forall_mem_cons]
      tauto

theorem foldlM {f : β → α → Except ParseFailure β} {Fits : α → Prop}
    (hf : ∀ b a, Outcome (f b a) (Fits a) (¬ Fits a)) (items : List α) (b : β) :
    Outcome (items.foldlM f b) (∀ a ∈ items, Fits a) (¬ ∀ a ∈ items, Fits a) := by
  induction items generalizing b with
  | nil => exact (of_ok b).congr (by simp) (by simp)
  | cons a rest ih =>
    rw [List.foldlM_cons]
    refine ((hf b a).bind fun next _ => ih next).congr ?_ ?_
    · simp
    · rw [List.forall_mem_cons]
      tauto

end Outcome

/-- The value begins, after blanks, with a number of the given width. -/
def NumberFits (bits : Nat) (value : List Char) : Prop :=
  ∃ n, Text.readInt (value.dropWhile isSpace) = some n ∧ -2 ^ (bits - 1) ≤ n ∧ n < 2 ^ (bits - 1)

def WindowsConvert (spec : List Char) : Prop :=
  ∀ part ∈ split spec ',', '-' ∈ part → NumberFits 64 (cutAt '-' part).1 ∧
    NumberFits 64 (cutAt '-' part).2

def DistancesConvert (spec : List Char) : Prop :=
  ∀ part ∈ split spec ',', '=' ∈ part → NumberFits 64 (trim (cutAt '=' part).2)

section Conversions

variable (stod : List Char → Option Rat)

def ActorField.Converts : ActorField → List Char → Prop
  | .capacity, value => NumberFits 32 value
  | .windows, value => WindowsConvert value
  | .cost, value => (stod value).isSome
  | _, _ => True

def TaskField.Converts : TaskField → List Char → Prop
  | .duration, value => NumberFits 64 value
  | .release, value => NumberFits 64 value
  | .latestStart, value => NumberFits 64 value
  | .deadline, value => NumberFits 64 value
  | .priority, value => NumberFits 32 value
  | .distances, value => DistancesConvert value
  | .demand, value => NumberFits 32 value
  | .tardinessCost, value => (stod value).isSome
  | .earlyStartBonus, value => (stod value).isSome
  | _, _ => True

theorem readNumber_outcome (bits : Nat) (value : List Char) :
    Outcome (readNumber bits value) (NumberFits bits value) (¬ NumberFits bits value) := by
  unfold readNumber NumberFits
  split
  · rename_i hread
    exact Outcome.of_thrown.congr (by simp [hread]) (by simp [hread])
  · rename_i n hread
    split_ifs with hrange
    · exact (Outcome.of_ok n).congr (by simp [hread, hrange]) (by simp [hread, hrange])
    · exact Outcome.of_thrown.congr (by simp [hread, hrange]) (by simp [hread, hrange])

theorem readDouble_outcome (value : List Char) :
    Outcome (readDouble stod value) ((stod value).isSome = true)
    (¬ (stod value).isSome = true) := by
  unfold readDouble
  cases stod value with
  | none => exact Outcome.of_thrown.congr (by simp) (by simp)
  | some x => exact (Outcome.of_ok x).congr (by simp) (by simp)

theorem parseWindows_outcome (spec : List Char) :
    Outcome (parseWindows spec) (WindowsConvert spec) (¬ WindowsConvert spec) := by
  have hwindow : ∀ part, Outcome (parseWindow part)
      (NumberFits 64 (cutAt '-' part).1 ∧ NumberFits 64 (cutAt '-' part).2)
      (¬ (NumberFits 64 (cutAt '-' part).1 ∧ NumberFits 64 (cutAt '-' part).2)) := by
    intro part
    have hbounds := (readNumber_outcome 64 (cutAt '-' part).1).bind fun start _ =>
      (readNumber_outcome 64 (cutAt '-' part).2).bind fun stop _ =>
        Outcome.of_ok ({ start := start, stop := stop } : AvailabilityWindow)
    exact hbounds.congr (by tauto) (by tauto)
  refine (Outcome.mapM hwindow _).congr ?_ ?_ <;> simp [WindowsConvert]

theorem parseDistances_outcome (spec : List Char) :
    Outcome (parseDistances spec) (DistancesConvert spec) (¬ DistancesConvert spec) := by
  have hdistance : ∀ distances part, Outcome (parseDistance distances part)
      (NumberFits 64 (trim (cutAt '=' part).2)) (¬ NumberFits 64 (trim (cutAt '=' part).2)) := by
    intro distances part
    have hread := (readNumber_outcome 64 (trim (cutAt '=' part).2)).bind fun distance _ =>
      Outcome.of_ok (distances.assign (String.ofList (trim (cutAt '=' part).1)) distance)
    exact hread.congr (by tauto) (by tauto)
  refine (Outcome.foldlM hdistance _ _).congr ?_ ?_ <;> simp [DistancesConvert]

theorem setActorField_outcome (field : ActorField) (value : List Char) (actor : OptimizerActor) :
    Outcome (setActorField stod field value actor) (field.Converts stod value)
      (¬ field.Converts stod value) := by
  cases field with
  | capacity => exact (readNumber_outcome 32 value).map _
  | windows => exact (parseWindows_outcome value).map _
  | cost => exact (readDouble_outcome stod value).map _
  | type | capabilities =>
    exact (Outcome.of_ok _).congr (by simp [ActorField.Converts]) (by simp [ActorField.Converts])

theorem setOnTask_outcome (field : TaskField) (value : List Char) (task : OptimizerTask) :
    Outcome (setOnTask stod field value task) (field.Converts stod value)
      (¬ field.Converts stod value) := by
  cases field with
  | duration | release | latestStart | deadline => exact (readNumber_outcome 64 value).map _
  | priority | demand => exact (readNumber_outcome 32 value).map _
  | distances => exact (parseDistances_outcome value).map _
  | tardinessCost | earlyStartBonus => exact (readDouble_outcome stod value).map _
  | requiresType | allowedActor | preferredActor | dependsOn | mandatory | preemptible
    | requiresCapabilities | mutex =>
    exact (Outcome.of_ok _).congr (by simp [TaskField.Converts]) (by simp [TaskField.Converts])

end Conversions

section Declared

variable {φ α : Type} (allowedField : String → Option φ) (Converts : φ → List Char → Prop)

/-- The fields are known, each has a value, and the values convert. -/
def FieldsConvert : List (List Char) → Prop
  | [] => True
  | [_] => False
  | field :: value :: rest =>
    (∃ known, allowedField (String.ofList field) = some known ∧ Converts known value) ∧
      FieldsConvert rest

/-- A value does not convert, and all fields up to it are known. -/
def FieldsThrow : List (List Char) → Prop
  | field :: value :: rest =>
    ∃ known, allowedField (String.ofList field) = some known ∧
      (¬ Converts known value ∨ FieldsThrow rest)
  | _ => False

variable {allowedField Converts}

theorem append_ne_empty {text : String} (h : text ≠ "") (rest : String) : text ++ rest ≠ "" :=
  fun heq => h (String.append_eq_empty_iff.mp heq).1

theorem unknownFieldError_ne (entityKind field : String) (lineNumber : Nat) :
    unknownFieldError entityKind field lineNumber ≠ "" := by
  unfold unknownFieldError
  repeat refine append_ne_empty ?_ _
  decide

theorem missingValueError_ne (entityKind field : String) (lineNumber : Nat) :
    missingValueError entityKind field lineNumber ≠ "" := by
  unfold missingValueError
  repeat refine append_ne_empty ?_ _
  decide

variable (allowedField) in
theorem parseFields_outcome {setField : φ → List Char → α → Except ParseFailure α}
    (hset : ∀ known value a, Outcome (setField known value a) (Converts known value)
      (¬ Converts known value))
    (entityKind : String) (lineNumber : Nat) (fields : List (List Char)) (a : α) :
    Outcome (parseFields entityKind allowedField setField lineNumber fields a)
      (FieldsConvert allowedField Converts fields) (FieldsThrow allowedField Converts fields) := by
  fun_induction parseFields entityKind allowedField setField lineNumber fields a with
  | case1 declared =>
    exact (Outcome.of_ok declared).congr (by simp [FieldsConvert]) (by simp [FieldsThrow])
  | case2 field _ hunknown =>
    exact (Outcome.of_error (unknownFieldError_ne _ _ _)).congr (by simp [FieldsConvert])
      (by simp [FieldsThrow])
  | case3 field _ known hknown =>
    exact (Outcome.of_error (missingValueError_ne _ _ _)).congr (by simp [FieldsConvert])
      (by simp [FieldsThrow])
  | case4 field value rest declared hunknown =>
    refine (Outcome.of_error (unknownFieldError_ne _ _ _)).congr ?_ ?_
    · simp [FieldsConvert, hunknown]
    · simp [FieldsThrow, hunknown]
  | case5 field value rest declared known hknown ih =>
    refine ((hset known value declared).bind fun next _ => ih next).congr ?_ ?_
    · simp [FieldsConvert, hknown]
    · simp only [FieldsThrow, hknown, Option.some.injEq, exists_eq_left']
      tauto

end Declared

/-- The tokens are the keyword, an id and fields of which `Fine` holds. -/
def Declares (keyword : List Char) (Fine : List (List Char) → Prop)
    (tokens : List (List Char)) : Prop :=
  ∃ id fields, tokens = keyword :: id :: fields ∧ Fine fields

theorem declares_cons {keyword first id : List Char} {fields : List (List Char)}
    {Fine : List (List Char) → Prop} :
    Declares keyword Fine (first :: id :: fields) ↔ first = keyword ∧ Fine fields := by
  unfold Declares
  constructor
  · rintro ⟨id', fields', heq, hfine⟩
    obtain ⟨hfirst, hrest⟩ := List.cons.inj heq
    obtain ⟨rfl, rfl⟩ := List.cons.inj hrest
    exact ⟨hfirst, hfine⟩
  · rintro ⟨rfl, hfine⟩
    exact ⟨id, fields, rfl, hfine⟩

theorem not_declares {keyword : List Char} {tokens : List (List Char)}
    {Fine : List (List Char) → Prop}
    (h : ∀ first id fields, tokens = first :: id :: fields → False) :
    ¬ Declares keyword Fine tokens :=
  fun ⟨id, fields, heq, _⟩ => h keyword id fields heq

variable (stod : List Char → Option Rat)

def ActorReads : List (List Char) → Prop :=
  Declares "actor".toList fun fields => FieldsConvert actorField (ActorField.Converts stod) fields ∧
    ∃ value, Gives actorField fields .type value

def ActorThrows : List (List Char) → Prop :=
  Declares "actor".toList (FieldsThrow actorField (ActorField.Converts stod))

def TaskReads : List (List Char) → Prop :=
  Declares "task".toList fun fields => FieldsConvert taskField (TaskField.Converts stod) fields ∧
    ∃ value, Gives taskField fields .duration value

def TaskThrows : List (List Char) → Prop :=
  Declares "task".toList (FieldsThrow taskField (TaskField.Converts stod))

variable {stod}

theorem mem_of_mem_fieldValues {fields : List (List Char)} {field value : List Char}
    (h : (field, value) ∈ fieldValues fields) : value ∈ fields := by
  fun_induction fieldValues fields with
  | case1 first second rest ih =>
    rcases List.mem_cons.mp h with heq | h
    · obtain ⟨rfl, rfl⟩ := Prod.mk.inj heq
      simp
    · simp [ih h]
  | case2 => exact absurd h (by simp)

theorem setActorField_id {known : ActorField} {value : List Char} {a b : OptimizerActor}
    (h : setActorField stod known value a = .ok b) : b.id = a.id := by
  cases known with
  | type | capabilities => exact Except.ok.inj h ▸ rfl
  | capacity | windows | cost =>
    obtain ⟨_, _, rfl⟩ := map_eq_ok.mp h
    rfl

theorem setActorField_type {other : ActorField} {value : List Char} {a b : OptimizerActor}
    (hne : other ≠ .type) (h : setActorField stod other value a = .ok b) : b.type = a.type := by
  cases other with
  | type => exact absurd rfl hne
  | capabilities => exact Except.ok.inj h ▸ rfl
  | capacity | windows | cost =>
    obtain ⟨_, _, rfl⟩ := map_eq_ok.mp h
    rfl

/-- A declaration whose fields leave its id alone keeps the id that it began with. -/
theorem parseFields_id_ne {φ α : Type} {allowedField : String → Option φ}
    {setField : φ → List Char → α → Except ParseFailure α} {name : α → String}
    (hset : ∀ {known : φ} {value : List Char} {a b : α}, setField known value a = .ok b →
      name b = name a)
    {entityKind : String} {lineNumber : Nat} {fields : List (List Char)} {start declared : α}
    (h : parseFields entityKind allowedField setField lineNumber fields start = .ok declared)
    {id : List Char} (hstart : name start = String.ofList id) (hid : id ≠ []) :
    name declared ≠ "" := by
  have hkept : name declared = String.ofList id :=
    parseFields_keeps (P := fun a => name a = String.ofList id)
      (fun _ _ _ _ hnext ha => (hset hnext).trans ha) h hstart
  rw [hkept]
  simpa using hid

theorem finishActor_outcome {lineNumber : Nat} {id : List Char} {fields : List (List Char)}
    {actor : OptimizerActor} (hid : id ≠ []) (hfields : ∀ token ∈ fields, token ≠ [])
    (h : parseFields "actor" actorField (setActorField stod) lineNumber fields
      { id := String.ofList id } = .ok actor) :
    Outcome (finishActor lineNumber actor)
    (∃ value, Gives actorField fields .type value) False := by
  have hactor : actor.id ≠ "" := parseFields_id_ne setActorField_id h rfl hid
  have hset : ∀ {value : List Char} {a b : OptimizerActor},
      setActorField stod .type value a = .ok b →
      b.type = String.ofList value := fun hset => Except.ok.inj hset ▸ rfl
  have hgiven :=
    parseFields_part OptimizerActor.type (fun value type => type = String.ofList value) hset
    setActorField_type h
  unfold finishActor
  rw [if_neg hactor]
  rcases hgiven with ⟨value, hgives, htype⟩ | ⟨hnone, htype⟩
  · have hvalue : value ≠ [] := by
      obtain ⟨field, hmem, -⟩ := hgives
      exact hfields value (mem_of_mem_fieldValues hmem)
    rw [if_neg (by simpa [htype] using hvalue)]
    exact (Outcome.of_ok _).congr (by simpa using ⟨value, hgives⟩) Iff.rfl
  · rw [if_pos htype]
    refine (Outcome.of_error ?_).congr (by simpa using hnone) Iff.rfl
    repeat refine append_ne_empty ?_ _
    decide

theorem setTaskField_id {known : TaskField} {value : List Char} {a b : DeclaredTask}
    (h : setTaskField stod known value a = .ok b) : b.task.id = a.task.id := by
  obtain ⟨task, htask, rfl⟩ := map_eq_ok.mp h
  cases known with
  | duration | release | latestStart | deadline | priority | distances | demand | tardinessCost
    | earlyStartBonus =>
    obtain ⟨_, _, rfl⟩ := map_eq_ok.mp htask
    rfl
  | requiresType | allowedActor | preferredActor | dependsOn | mandatory | preemptible
    | requiresCapabilities | mutex =>
    obtain rfl := Except.ok.inj htask
    rfl

theorem setTaskField_sawDuration {known : TaskField} {value : List Char} {a b : DeclaredTask}
    (h : setTaskField stod known value a = .ok b) :
    b.sawDuration = (a.sawDuration || known = .duration) := by
  obtain ⟨task, -, rfl⟩ := map_eq_ok.mp h
  rfl

theorem finishTask_outcome {lineNumber : Nat} {id : List Char} {fields : List (List Char)}
    {declared : DeclaredTask} (hid : id ≠ [])
    (h : parseFields "task" taskField (setTaskField stod) lineNumber fields
      { task := { id := String.ofList id } } = .ok declared) :
    Outcome (finishTask lineNumber declared)
      (∃ value, Gives taskField fields .duration value) False := by
  have htask : declared.task.id ≠ "" :=
    @parseFields_id_ne _ _ _ _ (fun declared => declared.task.id) setTaskField_id
      _ _ _ _ _ h _ rfl hid
  have hset : ∀ {value : List Char} {a b : DeclaredTask},
      setTaskField stod .duration value a = .ok b →
      b.sawDuration = true := fun hset => (setTaskField_sawDuration hset).trans (by simp)
  have hframe : ∀ {other : TaskField} {value : List Char} {a b : DeclaredTask}, other ≠ .duration →
      setTaskField stod other value a = .ok b → b.sawDuration = a.sawDuration :=
    fun hne hset => (setTaskField_sawDuration hset).trans (by simp [hne])
  unfold finishTask
  rw [if_neg htask]
  rcases parseFields_part DeclaredTask.sawDuration (fun _ saw => saw = true) hset hframe h with
    ⟨value, hgives, hsaw⟩ | ⟨hnone, hsaw⟩
  · rw [if_neg (by simp [hsaw])]
    exact (Outcome.of_ok _).congr (by simpa using ⟨value, hgives⟩) Iff.rfl
  · rw [if_pos hsaw]
    refine (Outcome.of_error ?_).congr (by simpa using hnone) Iff.rfl
    repeat refine append_ne_empty ?_ _
    decide

theorem invalidDeclaration_ne (lineNumber : Nat) {kind : String} (h : kind ≠ "") :
    kind ++ toString lineNumber ++ "." ≠ "" := append_ne_empty (append_ne_empty h _) _

theorem declaredActor_outcome {tokens : List (List Char)} (htokens : ∀ token ∈ tokens, token ≠ [])
    (lineNumber : Nat) :
    Outcome (declaredActor stod tokens lineNumber) (ActorReads stod tokens)
      (ActorThrows stod tokens) := by
  unfold declaredActor ActorReads ActorThrows
  split
  · rename_i keyword id fields
    rw [declares_cons, declares_cons]
    split_ifs with hkeyword
    · exact (Outcome.of_error (invalidDeclaration_ne _ (by decide))).congr (by tauto) (by tauto)
    · have hfields :=
        parseFields_outcome actorField (setActorField_outcome stod) "actor" lineNumber fields
        { id := String.ofList id }
      have hactor := hfields.bind fun actor hactor =>
        finishActor_outcome (htokens id (by simp))
          (fun token hmem => htokens token (by simp [hmem])) hactor
      exact hactor.congr (by tauto) (by tauto)
  · rename_i hshape
    exact (Outcome.of_error (invalidDeclaration_ne _ (by decide))).congr
      (iff_of_false not_false (not_declares hshape)) (iff_of_false not_false (not_declares hshape))

theorem declaredTask_outcome {tokens : List (List Char)} (htokens : ∀ token ∈ tokens, token ≠ [])
    (lineNumber : Nat) :
    Outcome (declaredTask stod tokens lineNumber) (TaskReads stod tokens)
      (TaskThrows stod tokens) := by
  have hset : ∀ known value (declared : DeclaredTask),
      Outcome (setTaskField stod known value declared)
      (known.Converts stod value) (¬ known.Converts stod value) :=
    fun known value declared => (setOnTask_outcome stod known value declared.task).map _
  unfold declaredTask TaskReads TaskThrows
  split
  · rename_i keyword id fields
    rw [declares_cons, declares_cons]
    split_ifs with hkeyword
    · exact (Outcome.of_error (invalidDeclaration_ne _ (by decide))).congr (by tauto) (by tauto)
    · have hfields := parseFields_outcome taskField hset "task" lineNumber fields
        { task := { id := String.ofList id } }
      have htask := hfields.bind fun declared hdeclared =>
        finishTask_outcome (htokens id (by simp)) hdeclared
      exact htask.congr (by tauto) (by tauto)
  · rename_i hshape
    exact (Outcome.of_error (invalidDeclaration_ne _ (by decide))).congr
      (iff_of_false not_false (not_declares hshape)) (iff_of_false not_false (not_declares hshape))

variable (stod)

def RequestLine.Reads : RequestLine → Prop
  | .skipped => True
  | .title _ => True
  | .actor tokens => ActorReads stod tokens
  | .task tokens => TaskReads stod tokens
  | .unrecognized => False

def RequestLine.Throws : RequestLine → Prop
  | .actor tokens => ActorThrows stod tokens
  | .task tokens => TaskThrows stod tokens
  | _ => False

/-- Some line throws, and the lines above it are accepted. -/
def ReachesThrow (lines : List RequestLine) : Prop :=
  ∃ above line below, lines = above ++ line :: below ∧ (∀ other ∈ above, other.Reads stod) ∧
    line.Throws stod

variable {stod}

theorem reachesThrow_cons {line : RequestLine} {rest : List RequestLine} :
    ReachesThrow stod (line :: rest) ↔ line.Throws stod ∨ line.Reads stod ∧
    ReachesThrow stod rest := by
  unfold ReachesThrow
  constructor
  · rintro ⟨above, bad, below, heq, habove, hbad⟩
    cases above with
    | nil =>
      obtain ⟨rfl, -⟩ := List.cons.inj heq
      exact Or.inl hbad
    | cons first above =>
      obtain ⟨rfl, rfl⟩ := List.cons.inj heq
      exact Or.inr ⟨habove _ List.mem_cons_self, above, bad, below, rfl,
        fun other hother => habove other (List.mem_cons_of_mem _ hother), hbad⟩
  · rintro (hbad | ⟨hline, above, bad, below, rfl, habove, hbad⟩)
    · exact ⟨[], line, rest, rfl, by simp, hbad⟩
    · exact ⟨line :: above, bad, below, rfl, List.forall_mem_cons.mpr ⟨hline, habove⟩, hbad⟩

/-- The tokens of a declaration are not empty. -/
def NonemptyTokens : RequestLine → Prop
  | .actor tokens => ∀ token ∈ tokens, token ≠ []
  | .task tokens => ∀ token ∈ tokens, token ≠ []
  | _ => True

theorem nonemptyTokens_readLine (rawLine : List Char) : NonemptyTokens (readLine rawLine) := by
  have htokenize : ∀ line, ∀ token ∈ tokenize line, token ≠ [] := by
    intro line token htoken
    simpa using (List.mem_filter.mp htoken).2
  have hdeclaration : ∀ line, NonemptyTokens (readDeclaration line) := by
    intro line
    unfold readDeclaration
    split_ifs
    · exact htokenize line
    · exact htokenize line
    · exact trivial
  unfold readLine readTrimmed
  split_ifs
  · exact trivial
  · exact trivial
  · exact trivial
  · exact trivial
  · exact hdeclaration _
  · exact hdeclaration _

theorem applyLine_outcome {line : RequestLine} (hline : NonemptyTokens line) (lineNumber : Nat)
    (model : OptimizationModel) :
    Outcome (applyLine stod model (line, lineNumber)) (line.Reads stod) (line.Throws stod) := by
  cases line with
  | skipped | title => exact Outcome.of_ok _
  | actor tokens => exact (declaredActor_outcome hline lineNumber).map _
  | task tokens => exact (declaredTask_outcome hline lineNumber).map _
  | unrecognized =>
    refine Outcome.of_error ?_
    repeat refine append_ne_empty ?_ _
    decide

theorem applyLines_outcome {lines : List RequestLine} (hlines : ∀ line ∈ lines, NonemptyTokens line)
    (lineNumber : Nat) (model : OptimizationModel) :
    Outcome ((lines.zipIdx lineNumber).foldlM (applyLine stod) model)
      (∀ line ∈ lines, line.Reads stod)
      (ReachesThrow stod lines) := by
  induction lines generalizing lineNumber model with
  | nil => exact (Outcome.of_ok model).congr (by simp) (by simp [ReachesThrow])
  | cons line rest ih =>
    rw [List.zipIdx_cons, List.foldlM_cons]
    have hrest :=
      ih (fun other hother => hlines other (List.mem_cons_of_mem _ hother)) (lineNumber + 1)
    have hline : Outcome (applyLine stod model (line, lineNumber)) (line.Reads stod)
        (line.Throws stod) :=
      applyLine_outcome (hlines line List.mem_cons_self) lineNumber model
    exact (hline.bind fun next _ => hrest next).congr List.forall_mem_cons.symm
      reachesThrow_cons.symm

theorem requestLines_outcome (request : String) :
    Outcome (((requestLines request).zipIdx 1).foldlM (applyLine stod) { id := "workflow" })
      (∀ line ∈ requestLines request, line.Reads stod)
      (ReachesThrow stod (requestLines request)) := by
  refine applyLines_outcome ?_ 1 _
  intro line hline
  obtain ⟨rawLine, -, rfl⟩ := List.mem_map.mp hline
  exact nonemptyTokens_readLine rawLine

theorem validateReferences_ne {taskIds : List TaskId} {task : OptimizerTask} {message : String}
    (h : validateReferences taskIds task = some message) : message ≠ "" := by
  rcases Option.or_eq_some_iff.mp h with h | ⟨-, h⟩
  · obtain ⟨id, -, rfl⟩ := Option.map_eq_some_iff.mp h
    repeat refine append_ne_empty ?_ _
    decide
  · obtain ⟨id, -, rfl⟩ := Option.map_eq_some_iff.mp h
    repeat refine append_ne_empty ?_ _
    decide

theorem validateModel_ne {model : OptimizationModel} {message : String}
    (h : validateModel model = some message) :
    message ≠ "" := by
  rcases Option.or_eq_some_iff.mp h with h | ⟨-, h⟩
  · obtain ⟨id, -, rfl⟩ := Option.map_eq_some_iff.mp h
    repeat refine append_ne_empty ?_ _
    decide
  · rcases Option.or_eq_some_iff.mp h with h | ⟨-, h⟩
    · obtain ⟨id, -, rfl⟩ := Option.map_eq_some_iff.mp h
      repeat refine append_ne_empty ?_ _
      decide
    · obtain ⟨task, -, h⟩ := List.exists_of_findSome?_eq_some h
      exact validateReferences_ne h

theorem finishModel_text {model : OptimizationModel} {failure : ParseFailure}
    (h : finishModel model = .error failure) :
    ∃ message, failure = .error message ∧ message ≠ "" := by
  unfold finishModel finishRequest at h
  split_ifs at h
  · exact ⟨_, (Except.error.inj h).symm, by decide⟩
  · exact ⟨_, (Except.error.inj h).symm, by decide⟩
  · split at h
    · rename_i message hinvalid
      exact ⟨message, (Except.error.inj h).symm, validateModel_ne hinvalid⟩
    · exact absurd h (by simp)

theorem parseRequest_thrown_iff {request : String} :
    parseRequest stod request = .error .thrown ↔ ReachesThrow stod (requestLines request) := by
  obtain ⟨-, hthrown, -⟩ := @requestLines_outcome stod request
  rw [← hthrown, parseRequest_eq]
  cases ((requestLines request).zipIdx 1).foldlM (applyLine stod) { id := "workflow" } with
  | error failure => rfl
  | ok model =>
    refine iff_of_false (fun h => ?_) (by simp)
    obtain ⟨message, heq, -⟩ := finishModel_text h
    exact absurd heq (by simp)

theorem parseRequest_text {request message : String}
    (h : parseRequest stod request = .error (.error message)) :
    message ≠ "" := by
  obtain ⟨-, -, htext⟩ := @requestLines_outcome stod request
  rw [parseRequest_eq] at h
  cases hlines : ((requestLines request).zipIdx 1).foldlM (applyLine stod) { id := "workflow" } with
  | error failure =>
    rw [hlines] at h
    exact htext message (hlines.trans h)
  | ok model =>
    rw [hlines] at h
    obtain ⟨message', heq, hne⟩ := finishModel_text h
    obtain rfl := ParseFailure.error.inj heq
    exact hne

/-- `WorkflowOptimizer::optimize_text` with a linked backend that is given by what it makes of a
model. `none` is an exception. -/
def optimizeText (stod : List Char → Option Rat)
    (optimize : OptimizationModel → OptimizationSolution) (request : String) :
    Option OptimizationSolution :=
  (parseNaturalLanguageRequest stod request).map fun parsed =>
    if parsed.ok then optimize parsed.model
      else { ok := false, errorMessage := parsed.errorMessage }

/-- A result comes back that is accepted or names an error, and the optimizer goes on from it. -/
def EndsInResult (stod : List Char → Option Rat)
    (optimize : OptimizationModel → OptimizationSolution) (request : String) : Prop :=
  (∃ result, parseNaturalLanguageRequest stod request = some result ∧
    (result.ok = true ∨ result.errorMessage ≠ "")) ∧
    (optimizeText stod optimize request).isSome = true

theorem ends_in_result_iff (stod : List Char → Option Rat)
    (optimize : OptimizationModel → OptimizationSolution) (request : String) :
    EndsInResult stod optimize request ↔ ¬ ReachesThrow stod (requestLines request) := by
  rw [← parseRequest_thrown_iff]
  unfold EndsInResult optimizeText parseNaturalLanguageRequest
  cases hparsed : parseRequest stod request with
  | ok model => simp
  | error failure =>
    cases failure with
    | error message => simp [parseRequest_text hparsed]
    | thrown => simp

/-- A capacity that is not a number throws. -/
theorem capacity_throws :
    ¬ ∀ (stod : List Char → Option Rat) (optimize : OptimizationModel → OptimizationSolution)
    (request : String), EndsInResult stod optimize request := by
  intro hall
  have hthrown : parseNaturalLanguageRequest (fun _ => none) "actor x type robot capacity many" =
      none := by
    rfl
  obtain ⟨⟨result, hresult, -⟩, -⟩ :=
    hall (fun _ => none) (fun _ => {}) "actor x type robot capacity many"
  rw [hthrown] at hresult
  exact absurd hresult (by simp)

end TaskOrchestrator.Optimizer
