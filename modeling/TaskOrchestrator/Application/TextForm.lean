import TaskOrchestrator.Application.Description
import TaskOrchestrator.Library.Loops
import TaskOrchestrator.Optimizer.RequestLines

/-!
# The text form is read back

Every value that a description can hold is written as a word that the parser reads as the value,
so that the lines of the text form give the model that the description means.
-/

namespace TaskOrchestrator.App

open Library Optimizer

set_option autoImplicit false

theorem writeInt_ne_nil (n : Int) : Text.writeInt n ≠ [] := by
  cases n with
  | ofNat n => exact Nat.toDigits_ne_nil
  | negSucc n => exact List.cons_ne_nil _ _

/-- A number is written with digits and perhaps a sign in front of them. -/
theorem mem_writeInt {n : Int} {c : Char} (hc : c ∈ Text.writeInt n) :
    c.isDigit = true ∨ c = '-' := by
  cases n with
  | ofNat n => exact Or.inl (Text.toDigits_isDigit n c hc)
  | negSucc n =>
    rcases List.mem_cons.mp hc with rfl | hc
    · exact Or.inr rfl
    · exact Or.inl (Text.toDigits_isDigit _ c hc)

theorem not_mem_writeInt {n : Int} {c : Char} (hdigit : c.isDigit = false) (hsign : c ≠ '-') :
    c ∉ Text.writeInt n := by
  intro hc
  rcases mem_writeInt hc with h | h
  · rw [h] at hdigit
    exact absurd hdigit (by decide)
  · exact hsign h

theorem writeInt_not_space {n : Int} : ∀ c ∈ Text.writeInt n, isSpace c = false := by
  intro c hc
  rcases mem_writeInt hc with hdigit | rfl
  · exact isSpace_of_isDigit hdigit
  · decide

theorem isWord_writeInt (n : Int) :
    IsWord (Text.writeInt n) := ⟨writeInt_ne_nil n, writeInt_not_space⟩

theorem readNumber_writeInt {bits : Nat} {n : Int} (hfits : Fits bits n) {rest : List Char}
    (hrest : ∀ c ∈ rest.head?, c.isDigit = false) :
    readNumber bits (Text.writeInt n ++ rest) = .ok n := by
  have hdrop : (Text.writeInt n ++ rest).dropWhile isSpace = Text.writeInt n ++ rest := by
    cases hn : Text.writeInt n with
    | nil => exact absurd hn (writeInt_ne_nil n)
    | cons c tail =>
      have hc : isSpace c = false := writeInt_not_space c (hn ▸ List.mem_cons_self)
      simp [hc]
  rw [readNumber, hdrop, Text.readInt_writeInt n hrest]
  exact if_pos hfits

theorem readNumber_writeInt_self {bits : Nat} {n : Int} (hfits : Fits bits n) :
    readNumber bits (Text.writeInt n) = .ok n := by
  have h : readNumber bits (Text.writeInt n ++ []) = .ok n := readNumber_writeInt hfits (by simp)
  rwa [List.append_nil] at h

theorem trim_of_not_space {text : List Char} (h : ∀ c ∈ text, isSpace c = false) :
    trim text = text :=
  Text.trim_of_no_blank h

def IsItem (item : List Char) : Prop := IsWord item ∧ ',' ∉ item

theorem isWord_writeItems {items : List (List Char)} (hitems : ∀ item ∈ items, IsItem item) :
    IsWord (writeItems items) := by
  unfold writeItems
  split_ifs with hnil
  · exact isWord_of_all (by simp) (by decide)
  · constructor
    · cases items with
      | nil => exact absurd rfl hnil
      | cons item rest =>
        have hne := (hitems item List.mem_cons_self).1.1
        exact Text.intercalate_ne_nil hne
    · intro c hc
      rcases Text.mem_intercalate hc with rfl | ⟨item, hitem, hmem⟩
      · decide
      · exact (hitems item hitem).1.2 c hmem

theorem split_writeItems {items : List (List Char)} (hitems : ∀ item ∈ items, IsItem item) :
    split (writeItems items) ',' = items := by
  unfold writeItems
  split_ifs with hnil
  · subst hnil
    rfl
  · have hpieces : Text.pieces (fun c => decide (c = ',')) ([','].intercalate items) = items := by
      apply Text.pieces_intercalate (by decide)
      intro item hitem
      refine ⟨(hitems item hitem).1.1, ?_⟩
      intro c hc
      have hcomma : c ≠ ',' := fun heq => (hitems item hitem).2 (heq ▸ hc)
      simp [hcomma]
    have htrim : items.map trim = items := by
      nth_rewrite 2 [← List.map_id items]
      rw [List.map_inj_left]
      intro item hitem
      exact trim_of_not_space (hitems item hitem).1.2
    rw [split, hpieces, htrim, List.filter_eq_self]
    intro item hitem
    simp [(hitems item hitem).1.1]

theorem isItem_of_isName {names : List String} (hnames : ∀ name ∈ names, IsName name) :
    ∀ item ∈ names.map String.toList, IsItem item := by
  intro item hitem
  obtain ⟨name, hname, rfl⟩ := List.mem_map.mp hitem
  exact hnames name hname

theorem splitNames_writeNames {names : List String} (hnames : ∀ name ∈ names, IsName name) :
    splitNames (writeNames names) = names := by
  rw [splitNames, writeNames, split_writeItems (isItem_of_isName hnames), List.map_map]
  simp [Function.comp_def]

theorem dash_not_mem_writeInt {n : Int} (hn : 0 ≤ n) : '-' ∉ Text.writeInt n := by
  intro hmem
  cases n with
  | ofNat n => exact absurd (Text.toDigits_isDigit n '-' hmem) (by decide)
  | negSucc n => omega

theorem cutAt_append {delimiter : Char} {before after : List Char} (h : delimiter ∉ before) :
    cutAt delimiter (before ++ delimiter :: after) = (before, after) := by
  have hbefore : ∀ c ∈ before, decide (c ≠ delimiter) = true := by
    intro c hc
    have hne : c ≠ delimiter := fun heq => h (heq ▸ hc)
    exact decide_eq_true hne
  rw [cutAt, List.takeWhile_append_of_pos hbefore, List.dropWhile_append_of_pos hbefore]
  simp

theorem isItem_writeWindow (window : Int × Int) : IsItem (writeWindow window) := by
  refine ⟨⟨by simp [writeWindow], ?_⟩, ?_⟩
  · intro c hc
    rcases List.mem_append.mp hc with hc | hc
    · exact writeInt_not_space c hc
    · rcases List.mem_cons.mp hc with rfl | hc
      · decide
      · exact writeInt_not_space c hc
  · intro hc
    rcases List.mem_append.mp hc with hc | hc
    · exact not_mem_writeInt (by decide) (by decide) hc
    · rcases List.mem_cons.mp hc with heq | hc
      · exact absurd heq (by decide)
      · exact not_mem_writeInt (by decide) (by decide) hc

theorem isItem_writeWindows (windows : List (Int × Int)) :
    ∀ item ∈ windows.map writeWindow, IsItem item := by
  intro item hitem
  obtain ⟨window, -, rfl⟩ := List.mem_map.mp hitem
  exact isItem_writeWindow window

theorem parseWindow_writeWindow {window : Int × Int} (h : WindowWritable window) :
    parseWindow (writeWindow window) = .ok { start := window.1, stop := window.2 } := by
  obtain ⟨hsign, hstart, hstop⟩ := h
  rw [parseWindow, writeWindow, cutAt_append (dash_not_mem_writeInt hsign)]
  simp only [stoll, readNumber_writeInt_self hstart, readNumber_writeInt_self hstop]
  rfl

theorem parseWindows_writeItems {windows : List (Int × Int)}
    (h : ∀ window ∈ windows, WindowWritable window) :
    parseWindows (writeItems (windows.map writeWindow)) =
      .ok (windows.map fun window => { start := window.1, stop := window.2 }) := by
  have hdash : (windows.map writeWindow).filter (fun part => '-' ∈ part) =
      windows.map writeWindow := by
    rw [List.filter_eq_self]
    intro item hitem
    obtain ⟨window, -, rfl⟩ := List.mem_map.mp hitem
    simp [writeWindow]
  rw [parseWindows, split_writeItems (isItem_writeWindows windows), hdash, List.mapM_map]
  exact mapM_eq_pure fun window hwindow => parseWindow_writeWindow (h window hwindow)

theorem isItem_writeDistance {entry : String × Int}
    (h : ∀ c ∈ entry.1.toList, isSpace c = false ∧ c ≠ ',' ∧ c ≠ '=') :
    IsItem (writeDistance entry) := by
  refine ⟨⟨by simp [writeDistance], ?_⟩, ?_⟩
  · intro c hc
    rcases List.mem_append.mp hc with hc | hc
    · exact (h c hc).1
    · rcases List.mem_cons.mp hc with rfl | hc
      · decide
      · exact writeInt_not_space c hc
  · intro hc
    rcases List.mem_append.mp hc with hc | hc
    · exact (h ',' hc).2.1 rfl
    · rcases List.mem_cons.mp hc with heq | hc
      · exact absurd heq (by decide)
      · exact not_mem_writeInt (by decide) (by decide) hc

theorem isItem_writeDistances {distances : List (String × Int)} (h : DistancesWritable distances) :
    ∀ item ∈ distances.map writeDistance, IsItem item := by
  intro item hitem
  obtain ⟨entry, hentry, rfl⟩ := List.mem_map.mp hitem
  exact isItem_writeDistance (h.entries entry hentry).1

theorem parseDistance_writeDistance {entry : String × Int}
    (hkey : ∀ c ∈ entry.1.toList, isSpace c = false ∧ c ≠ ',' ∧ c ≠ '=') (hfits : Fits 64 entry.2)
    (distances : Dictionary ActorId Time) :
    parseDistance distances (writeDistance entry) = .ok (distances.assign entry.1 entry.2) := by
  have hequals : '=' ∉ entry.1.toList := fun hmem => (hkey '=' hmem).2.2 rfl
  have htrim : trim (Text.writeInt entry.2) = Text.writeInt entry.2 :=
    trim_of_not_space writeInt_not_space
  have hname : trim entry.1.toList = entry.1.toList := trim_of_not_space fun c hc => (hkey c hc).1
  rw [parseDistance, writeDistance, cutAt_append hequals]
  simp only [stoll, htrim, hname, readNumber_writeInt_self hfits, String.ofList_toList]
  rfl

/-- Different keys are inserted alike by an assignment and by `emplace`. -/
theorem foldl_assign_eq_emplace {distances : List (String × Int)}
    (hkeys : (distances.map Prod.fst).Nodup) :
    distances.foldl (fun (d : Dictionary ActorId Time) entry => d.assign entry.1 entry.2) .empty =
      distances.foldl (fun d entry => d.emplace entry.1 entry.2) .empty := by
  induction distances using List.reverseRecOn with
  | nil => rfl
  | append_singleton rest entry ih =>
    rw [List.map_append, List.nodup_append] at hkeys
    have hnew : entry.1 ∉ rest.map Prod.fst :=
      fun hmem => hkeys.2.2 entry.1 hmem entry.1 (by simp) rfl
    have hrows := Dictionary.rows_foldl_emplace hkeys.1
    rw [List.foldl_append, List.foldl_append, ih hkeys.1]
    exact (Dictionary.emplace_new _ _ (by rwa [hrows])).symm

theorem parseDistances_writeItems {distances : List (String × Int)}
    (h : DistancesWritable distances) :
    parseDistances (writeItems (distances.map writeDistance)) =
      .ok (distances.foldl (fun d entry => d.emplace entry.1 entry.2) .empty) := by
  have hequals : (distances.map writeDistance).filter (fun part => '=' ∈ part) =
      distances.map writeDistance := by
    rw [List.filter_eq_self]
    intro item hitem
    obtain ⟨entry, -, rfl⟩ := List.mem_map.mp hitem
    simp [writeDistance]
  rw [parseDistances, split_writeItems (isItem_writeDistances h), hequals, List.foldlM_map,
    ← foldl_assign_eq_emplace h.keys]
  apply foldlM_eq_pure
  intro d entry hentry
  obtain ⟨hkey, hfits⟩ := h.entries entry hentry
  exact parseDistance_writeDistance hkey hfits d

theorem actorField_name (field : ActorField) : actorField (ActorField.name field) = some field := by
  cases field <;> rfl

theorem taskField_name (field : TaskField) : taskField (TaskField.name field) = some field := by
  cases field <;> rfl

theorem parseFields_fieldWords {φ α : Type} {entityKind : String} {allowedField : String → Option φ}
    {setField : φ → List Char → α → Except ParseFailure α} {lineNumber : Nat} {name : φ → String}
    {word : φ → List Char} (hname : ∀ field, allowedField (name field) = some field)
    {declared : List φ → α} {given : List φ}
    (hset : ∀ field ∈ given, ∀ fields,
      setField field (word field) (declared fields) = .ok (declared (fields ++ [field])))
    (fields : List φ) :
    parseFields entityKind allowedField setField lineNumber (fieldWords name word given)
      (declared fields) =
      .ok (declared (fields ++ given)) := by
  induction given generalizing fields with
  | nil => simp [fieldWords, parseFields]
  | cons field rest ih =>
    have hrest :=
      ih (fun other hother => hset other (List.mem_cons_of_mem _ hother)) (fields ++ [field])
    rw [List.append_assoc, List.singleton_append] at hrest
    simp only [fieldWords, List.flatMap_cons, List.cons_append, List.nil_append, parseFields,
      String.ofList_toList, hname, hset field List.mem_cons_self] at hrest ⊢
    exact hrest

section Written

variable {yaml : YamlCpp} {stod : List Char → Option Rat}

theorem setActorField_word {actor : ActorDescription} {field : ActorField}
    (h : actor.Writable yaml stod field) (fields : List ActorField) :
    setActorField stod field (actor.word field) (actor.upTo fields) =
      .ok (actor.upTo (fields ++ [field])) := by
  cases field with
  | type => simp [setActorField, ActorDescription.word, ActorDescription.upTo]
  | capacity =>
    have hread : stoi (Text.writeInt actor.capacity) = .ok actor.capacity :=
      readNumber_writeInt_self h
    simp [setActorField, ActorDescription.word, ActorDescription.upTo, hread, Except.map]
  | windows =>
    simp [setActorField, ActorDescription.word, ActorDescription.upTo, parseWindows_writeItems h,
      Except.map]
  | capabilities =>
    simp [setActorField, ActorDescription.word, ActorDescription.upTo, splitNames_writeNames h]
  | cost =>
    simp [setActorField, ActorDescription.word, ActorDescription.upTo, readDouble, h.2.1,
      Except.map]

theorem writeBool_eq_true (value : Bool) :
    writeBool value = ['t', 'r', 'u', 'e'] ↔ value = true := by
  cases value <;> decide

theorem setOnTask_word {task : TaskDescription} {field : TaskField}
    (h : task.Writable yaml stod field) (fields : List TaskField) :
    setOnTask stod field (task.word field) (task.upTo fields) =
      .ok (task.upTo (fields ++ [field])) := by
  have hnumber : ∀ bits n, Fits bits n → readNumber bits (Text.writeInt n) = .ok n :=
    fun _ _ hfits => readNumber_writeInt_self hfits
  cases field with
  | duration | release =>
    simp [setOnTask, TaskDescription.word, TaskDescription.upTo, stoll, hnumber _ _ h, Except.map]
  | latestStart | deadline =>
    simp [setOnTask, TaskDescription.word, TaskDescription.upTo, stoll, hnumber _ _ h.1, Except.map]
  | priority | demand =>
    simp [setOnTask, TaskDescription.word, TaskDescription.upTo, stoi, hnumber _ _ h, Except.map]
  | requiresType | allowedActor | preferredActor | dependsOn | requiresCapabilities | mutex =>
    simp [setOnTask, TaskDescription.word, TaskDescription.upTo, splitNames_writeNames h]
  | distances =>
    simp [setOnTask, TaskDescription.word, TaskDescription.upTo, parseDistances_writeItems h,
      Except.map]
  | mandatory | preemptible =>
    simp [setOnTask, TaskDescription.word, TaskDescription.upTo, writeBool_eq_true]
  | tardinessCost | earlyStartBonus =>
    simp [setOnTask, TaskDescription.word, TaskDescription.upTo, readDouble, h.2.1, Except.map]

theorem isWord_writeBool (value : Bool) : IsWord (writeBool value) := by
  cases value
  · exact isWord_of_all (by decide) (by decide)
  · exact isWord_of_all (by decide) (by decide)

theorem isWord_actorWord {actor : ActorDescription} {field : ActorField}
    (h : actor.Writable yaml stod field) :
    IsWord (actor.word field) := by
  cases field with
  | type => exact h
  | capacity => exact isWord_writeInt _
  | windows => exact isWord_writeItems (isItem_writeWindows _)
  | capabilities => exact isWord_writeItems (isItem_of_isName h)
  | cost => exact h.1

theorem isWord_taskWord {task : TaskDescription} {field : TaskField}
    (h : task.Writable yaml stod field) :
    IsWord (task.word field) := by
  cases field with
  | duration | release | latestStart | deadline | priority | demand => exact isWord_writeInt _
  | requiresType | allowedActor | preferredActor | dependsOn | requiresCapabilities | mutex =>
    exact isWord_writeItems (isItem_of_isName h)
  | distances => exact isWord_writeItems (isItem_writeDistances h)
  | mandatory | preemptible => exact isWord_writeBool _
  | tardinessCost | earlyStartBonus => exact h.1

theorem isWord_actorName (field : ActorField) : IsWord (ActorField.name field).toList := by
  cases field <;> exact isWord_of_all (by decide) (by decide)

theorem isWord_taskName (field : TaskField) : IsWord (TaskField.name field).toList := by
  cases field <;> exact isWord_of_all (by decide) (by decide)

theorem isWord_fieldWords {φ : Type} {name : φ → String} {word : φ → List Char} {given : List φ}
    (hname : ∀ field, IsWord (name field).toList) (hword : ∀ field ∈ given, IsWord (word field)) :
    ∀ w ∈ fieldWords name word given, IsWord w := by
  intro w hw
  obtain ⟨field, hfield, hmem⟩ := List.mem_flatMap.mp hw
  rcases List.mem_cons.mp hmem with rfl | hmem
  · exact hname field
  · obtain rfl := List.mem_singleton.mp hmem
    exact hword field hfield

theorem isWord_actorWords {actor : ActorDescription} (h : actor.Expressible yaml stod) :
    ∀ w ∈ "actor".toList :: actor.id.toList :: fieldWords ActorField.name actor.word actor.given,
      IsWord w := by
  have hfields : ∀ w ∈ fieldWords ActorField.name actor.word actor.given, IsWord w :=
    isWord_fieldWords isWord_actorName fun field hfield => isWord_actorWord (h.fields field hfield)
  rw [List.forall_mem_cons, List.forall_mem_cons]
  exact ⟨isWord_of_all (by decide) (by decide), h.id, hfields⟩

theorem isWord_taskWords {task : TaskDescription} (h : task.Expressible yaml stod) :
    ∀ w ∈ "task".toList :: task.id.toList :: fieldWords TaskField.name task.word task.given,
      IsWord w := by
  have hfields : ∀ w ∈ fieldWords TaskField.name task.word task.given, IsWord w :=
    isWord_fieldWords isWord_taskName fun field hfield => isWord_taskWord (h.fields field hfield)
  rw [List.forall_mem_cons, List.forall_mem_cons]
  exact ⟨isWord_of_all (by decide) (by decide), h.id, hfields⟩

theorem tokenize_words {words : List (List Char)} (hwords : ∀ w ∈ words, IsWord w) :
    tokenize ([' '].intercalate words) = words :=
  Text.words_intercalate (by decide) hwords

theorem not_space_at_ends {first : List Char} {rest : List (List Char)}
    (hwords : ∀ w ∈ first :: rest, IsWord w) :
    (∀ c ∈ ([' '].intercalate (first :: rest)).head?, isSpace c = false) ∧
      ∀ c ∈ ([' '].intercalate (first :: rest)).getLast?, isSpace c = false := by
  obtain ⟨hne, hfirst⟩ := hwords first List.mem_cons_self
  constructor
  · intro c hc
    cases first with
    | nil => exact absurd rfl hne
    | cons d first =>
      rw [List.intercalate_cons_cons_left, List.head?_cons, Option.mem_some_iff] at hc
      exact hfirst c (hc ▸ List.mem_cons_self)
  · intro c hc
    obtain ⟨w, hw, hmem⟩ := Text.getLast?_intercalate (fun w hw => (hwords w hw).1) hc
    exact (hwords w hw).2 c hmem

theorem kWorkflowPrefix_eq :
    kWorkflowPrefix = ['w', 'o', 'r', 'k', 'f', 'l', 'o', 'w', ' '] := by decide

theorem kIdPrefix_eq : kIdPrefix = ['i', 'd', ':'] := by decide

theorem kActorsSection_eq : kActorsSection = ['a', 'c', 't', 'o', 'r', 's'] := by decide

theorem kTasksSection_eq : kTasksSection = ['t', 'a', 's', 'k', 's'] := by decide

theorem kLineItemPrefix_eq : kLineItemPrefix = ['-', ' '] := by decide

theorem parseLine_bullet {text : List Char} (hne : text ≠ [])
    (hfirst : ∀ c ∈ text.head?, isSpace c = false) (hlast : ∀ c ∈ text.getLast?, isSpace c = false)
    (s : ParserState) (lineNumber : Nat) :
    parseLine stod s (kLineItemPrefix ++ text, lineNumber) =
      parseDeclaration stod s lineNumber text := by
  have htrim : trim ('-' :: ' ' :: text) = '-' :: ' ' :: text := by
    apply Text.trim_eq_self
    · intro c hc
      rw [List.head?_cons, Option.mem_some_iff] at hc
      subst hc
      rfl
    · intro c hc
      have happend : '-' :: ' ' :: text = ['-', ' '] ++ text := rfl
      rw [happend, List.getLast?_append_of_ne_nil _ hne] at hc
      exact hlast c hc
  have htext : trim text = text := Text.trim_eq_self hfirst hlast
  unfold parseLine
  simp [htrim, htext, kWorkflowPrefix_eq, kIdPrefix_eq, isSectionLine, kActorsSection_eq,
    kTasksSection_eq, kLineItemPrefix_eq]

theorem parseLine_declarationLine {keyword id : String} {fields : List (List Char)}
    (hwords : ∀ w ∈ keyword.toList :: id.toList :: fields, IsWord w) (s : ParserState)
    (lineNumber : Nat) :
    parseLine stod s (declarationLine keyword id fields, lineNumber) =
      parseDeclaration stod s lineNumber
        ([' '].intercalate (keyword.toList :: id.toList :: fields)) := by
  obtain ⟨hfirst, hlast⟩ := not_space_at_ends hwords
  have hkeyword : keyword.toList ≠ [] := (hwords _ List.mem_cons_self).1
  exact parseLine_bullet (Text.intercalate_ne_nil hkeyword) hfirst hlast s lineNumber

theorem parseDeclaration_actor {id : List Char} {fields : List (List Char)} (s : ParserState)
    (lineNumber : Nat) :
    parseDeclaration stod s lineNumber ([' '].intercalate ("actor".toList :: id :: fields)) =
      (parseActorLine stod ([' '].intercalate ("actor".toList :: id :: fields)) lineNumber).map
        fun actor =>
        { s with model := { s.model with actors := s.model.actors ++ [actor] } } := by
  have hkeyword : "actor".toList = ['a', 'c', 't', 'o', 'r'] := by decide
  have hstart : "actor ".toList = ['a', 'c', 't', 'o', 'r', ' '] := by decide
  simp [parseDeclaration, hkeyword, hstart]

theorem parseDeclaration_task {id : List Char} {fields : List (List Char)} (s : ParserState)
    (lineNumber : Nat) :
    parseDeclaration stod s lineNumber ([' '].intercalate ("task".toList :: id :: fields)) =
      (parseTaskLine stod ([' '].intercalate ("task".toList :: id :: fields)) lineNumber).map
        fun task =>
        { s with model := { s.model with tasks := s.model.tasks ++ [task] } } := by
  have hkeyword : "task".toList = ['t', 'a', 's', 'k'] := by decide
  have hactor : "actor ".toList = ['a', 'c', 't', 'o', 'r', ' '] := by decide
  have hstart : "task ".toList = ['t', 'a', 's', 'k', ' '] := by decide
  simp [parseDeclaration, hkeyword, hactor, hstart]

def addActor (s : ParserState) (actor : ActorDescription) : ParserState :=
  { s with model := { s.model with actors := s.model.actors ++ [actor.model] } }

def addTask (s : ParserState) (task : TaskDescription) : ParserState :=
  { s with model := { s.model with tasks := s.model.tasks ++ [task.model] } }

theorem parseLine_actorLine {actor : ActorDescription} (h : actor.Expressible yaml stod)
    (s : ParserState) (lineNumber : Nat) :
    parseLine stod s (actor.line, lineNumber) = .ok (addActor s actor) := by
  have hwords := isWord_actorWords h
  have hread : parseFields "actor" actorField (setActorField stod) lineNumber
      (fieldWords ActorField.name actor.word actor.given) (actor.upTo []) =
      .ok (actor.upTo actor.given) :=
    parseFields_fieldWords actorField_name
      (fun field hfield => setActorField_word (h.fields field hfield)) []
  have hfinish : finishActor lineNumber (actor.upTo actor.given) = .ok actor.model := by
    have htype : IsWord actor.type.toList := h.fields .type h.type
    have hid : actor.id ≠ "" := fun heq => h.id.1 (by rw [heq]; rfl)
    have hname : actor.type ≠ "" := fun heq => htype.1 (by rw [heq]; rfl)
    simp [finishActor, ActorDescription.model, ActorDescription.upTo, hid, hname, h.type]
  have hstart : ({ id := actor.id } : OptimizerActor) = actor.upTo [] := by
    simp [ActorDescription.upTo]
  rw [ActorDescription.line, parseLine_declarationLine hwords, parseDeclaration_actor,
    parseActorLine, tokenize_words hwords]
  simp only [ne_eq, not_true_eq_false, if_false, String.ofList_toList, hstart, hread]
  exact congrArg (Except.map _) hfinish

theorem parseLine_taskLine {task : TaskDescription} (h : task.Expressible yaml stod)
    (s : ParserState) (lineNumber : Nat) :
    parseLine stod s (task.line, lineNumber) = .ok (addTask s task) := by
  have hwords := isWord_taskWords h
  let declared (fields : List TaskField) : DeclaredTask :=
    { task := task.upTo fields, sawDuration := decide (.duration ∈ fields) }
  have hread : parseFields "task" taskField (setTaskField stod) lineNumber
      (fieldWords TaskField.name task.word task.given) (declared []) =
      .ok (declared task.given) := by
    refine parseFields_fieldWords taskField_name ?_ []
    intro field hfield fields
    simp [declared, setTaskField, setOnTask_word (h.fields field hfield), Except.map, eq_comm]
  have hfinish : finishTask lineNumber (declared task.given) = .ok task.model := by
    have hid : task.id ≠ "" := fun heq => h.id.1 (by rw [heq]; rfl)
    simp [declared, finishTask, TaskDescription.model, TaskDescription.upTo, hid, h.duration]
  have hstart : ({ task := { id := task.id } } : DeclaredTask) = declared [] := by
    simp [declared, TaskDescription.upTo]
  rw [TaskDescription.line, parseLine_declarationLine hwords, parseDeclaration_task, parseTaskLine,
    tokenize_words hwords]
  simp only [ne_eq, not_true_eq_false, if_false, String.ofList_toList, hstart, hread]
  exact congrArg (Except.map _) hfinish

theorem parseLine_title {title : List Char} (h : IsTitle title) (s : ParserState)
    (lineNumber : Nat) :
    parseLine stod s (kWorkflowPrefix ++ title, lineNumber) =
      .ok { s with model := { s.model with id := String.ofList title } } := by
  have htrim : trim (kWorkflowPrefix ++ title) = kWorkflowPrefix ++ title := by
    apply Text.trim_eq_self
    · intro c hc
      rw [kWorkflowPrefix_eq, List.cons_append, List.head?_cons, Option.mem_some_iff] at hc
      subst hc
      rfl
    · intro c hc
      rw [List.getLast?_append_of_ne_nil _ h.nonempty] at hc
      exact h.last c hc
  have htitle : trim title = title := Text.trim_eq_self h.first h.last
  rw [kWorkflowPrefix_eq] at htrim ⊢
  unfold parseLine
  simp only [htrim]
  simp [htitle, kWorkflowPrefix_eq]

theorem foldlM_lines {α : Type} {line : α → List Char} {next : ParserState → α → ParserState}
    {items : List α}
    (h : ∀ item ∈ items, ∀ s lineNumber,
      parseLine stod s (line item, lineNumber) = .ok (next s item))
    (s : ParserState) (lineNumber : Nat) :
    ((items.map line).zipIdx lineNumber).foldlM (parseLine stod) s = .ok (items.foldl next s) := by
  induction items generalizing s lineNumber with
  | nil => rfl
  | cons item rest ih =>
    have hrest := ih fun x hx => h x (List.mem_cons_of_mem _ hx)
    rw [List.map_cons, List.zipIdx_cons, List.foldlM_cons, h item List.mem_cons_self]
    exact hrest _ _

theorem foldl_addActor (actors : List ActorDescription) (s : ParserState) :
    actors.foldl addActor s =
      { s with model :=
        { s.model with actors := s.model.actors ++ actors.map ActorDescription.model } } := by
  induction actors generalizing s with
  | nil => simp
  | cons actor rest ih => simp [ih, addActor]

theorem foldl_addTask (tasks : List TaskDescription) (s : ParserState) :
    tasks.foldl addTask s =
      { s with
        model := { s.model with tasks := s.model.tasks ++ tasks.map TaskDescription.model } } := by
  induction tasks generalizing s with
  | nil => simp
  | cons task rest ih => simp [ih, addTask]

theorem parseLine_sections (s : ParserState) (lineNumber : Nat) :
    parseLine stod s ("actors:".toList, lineNumber) = .ok { s with openSection := .actors } ∧
      parseLine stod s ("tasks:".toList, lineNumber) = .ok { s with openSection := .tasks } :=
  ⟨rfl, rfl⟩

variable {workflow : WorkflowDescription}

theorem parse_lines (h : workflow.Expressible yaml stod) :
    (workflow.lines.zipIdx 1).foldlM (parseLine stod) {} =
      .ok { model := workflow.model, openSection := .tasks } := by
  have htitle : ∀ s lineNumber,
      ((workflow.id.toList.map fun id => kWorkflowPrefix ++ id.toList).zipIdx lineNumber).foldlM
      (parseLine stod) s =
        .ok (workflow.id.toList.foldl
          (fun s id => { s with model := { s.model with id := id } }) s) := by
    apply foldlM_lines
    intro id hid s lineNumber
    have hmem : id ∈ workflow.id := by simpa using hid
    rw [parseLine_title (h.id id hmem), String.ofList_toList]
  have hactors : ∀ s lineNumber,
      ((workflow.actors.map ActorDescription.line).zipIdx lineNumber).foldlM
      (parseLine stod) s = .ok (workflow.actors.foldl addActor s) :=
    foldlM_lines fun actor hactor => parseLine_actorLine (h.actors actor hactor)
  have htasks : ∀ s lineNumber, ((workflow.tasks.map TaskDescription.line).zipIdx lineNumber).foldlM
      (parseLine stod) s = .ok (workflow.tasks.foldl addTask s) :=
    foldlM_lines fun task htask => parseLine_taskLine (h.tasks task htask)
  simp only [WorkflowDescription.lines, List.append_assoc, List.cons_append, List.zipIdx_append,
    List.zipIdx_cons, List.foldlM_append, List.foldlM_cons, htitle,
    (parseLine_sections _ _).1, (parseLine_sections _ _).2, hactors, htasks,
    foldl_addActor, foldl_addTask, bind, Except.bind]
  cases hid : workflow.id with
  | none => simp [WorkflowDescription.model, hid]
  | some id => simp [WorkflowDescription.model, hid]

theorem line_of_declaration {keyword id : String} {fields : List (List Char)}
    (hwords : ∀ w ∈ keyword.toList :: id.toList :: fields, IsWord w) :
    declarationLine keyword id fields ≠ [] ∧ '\n' ∉ declarationLine keyword id fields := by
  refine ⟨by simp [declarationLine, kLineItemPrefix_eq], ?_⟩
  intro hmem
  rw [declarationLine, List.mem_append] at hmem
  rcases hmem with hmem | hmem
  · exact absurd hmem (by decide)
  · rcases Text.mem_intercalate hmem with heq | ⟨w, hw, hmem⟩
    · exact absurd heq (by decide)
    · exact absurd ((hwords w hw).2 _ hmem) (by decide)

theorem lines_of_expressible (h : workflow.Expressible yaml stod) :
    ∀ line ∈ workflow.lines, line ≠ [] ∧ ∀ c ∈ line, decide (c = '\n') = false := by
  have hcheck : ∀ line : List Char, line ≠ [] ∧ '\n' ∉ line →
      line ≠ [] ∧ ∀ c ∈ line, decide (c = '\n') = false := by
    intro line hline
    refine ⟨hline.1, fun c hc => decide_eq_false ?_⟩
    intro heq
    exact hline.2 (heq ▸ hc)
  intro line hline
  apply hcheck
  rw [WorkflowDescription.lines, List.append_assoc, List.cons_append, List.mem_append,
    List.mem_cons, List.mem_append, List.mem_cons] at hline
  rcases hline with hline | rfl | hline | rfl | hline
  · obtain ⟨id, hid, rfl⟩ := List.mem_map.mp hline
    have htitle : IsTitle id.toList := h.id id (by simpa using hid)
    have hstart : '\n' ∉ kWorkflowPrefix := by decide
    exact ⟨by simp [kWorkflowPrefix_eq], by simp [hstart, htitle.line]⟩
  · decide
  · obtain ⟨actor, hactor, rfl⟩ := List.mem_map.mp hline
    exact line_of_declaration (isWord_actorWords (h.actors actor hactor))
  · decide
  · obtain ⟨task, htask, rfl⟩ := List.mem_map.mp hline
    exact line_of_declaration (isWord_taskWords (h.tasks task htask))

theorem validReferences_of_expressible (h : workflow.Expressible yaml stod) :
    ValidReferences workflow.model := by
  have hactors : workflow.model.actors.map OptimizerActor.id =
      workflow.actors.map ActorDescription.id := by
    rw [WorkflowDescription.model, List.map_map]
    apply List.map_congr_left
    intro actor _
    simp only [Function.comp_apply, ActorDescription.model, withDefaultWindow]
    split_ifs <;> rfl
  have htasks : workflow.model.tasks.map OptimizerTask.id =
      workflow.tasks.map TaskDescription.id := by
    rw [WorkflowDescription.model, List.map_map]
    rfl
  have hknown : ∀ id, id ∈ workflow.tasks.map TaskDescription.id →
      ∃ other ∈ workflow.model.tasks, other.id = id := by
    intro id hid
    rw [← htasks] at hid
    exact List.mem_map.mp hid
  refine ⟨hactors ▸ h.actorIds, htasks ▸ h.taskIds, ?_, ?_⟩
  · intro parsed hparsed id hid
    obtain ⟨task, htask, rfl⟩ := List.mem_map.mp hparsed
    exact hknown id (h.dependencies task htask id hid)
  · intro parsed hparsed id hid
    obtain ⟨task, htask, rfl⟩ := List.mem_map.mp hparsed
    exact hknown id (h.mutexes task htask id hid)

theorem textForm_accepted (h : workflow.Expressible yaml stod) :
    Accepts stod workflow.textForm workflow.model := by
  have hpieces : Text.pieces (fun c => decide (c = '\n')) workflow.textForm.toList =
      workflow.lines := by
    rw [WorkflowDescription.textForm, String.toList_ofList]
    exact Text.pieces_intercalate (by decide) (lines_of_expressible h)
  have hactors : workflow.model.actors ≠ [] := fun hnil => h.someActor (List.map_eq_nil_iff.mp hnil)
  have htasks : workflow.model.tasks ≠ [] := fun hnil => h.someTask (List.map_eq_nil_iff.mp hnil)
  rw [accepts_iff, parseRequest, parseLines, hpieces, parse_lines h, bind_eq_ok]
  refine ⟨_, rfl, ?_⟩
  simp [finishRequest, hactors, htasks,
    validateModel_eq_none_iff.mpr (validReferences_of_expressible h)]

end Written

end TaskOrchestrator.App
