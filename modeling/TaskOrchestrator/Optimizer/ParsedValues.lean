import TaskOrchestrator.Optimizer.RequestLines

/-!
# The values of an accepted request

Numbers are read from the front of a value and what follows the digits is dropped; a flag is set by
`true` and cleared by every other word; a field that is given again replaces what was given. So the
values that an accepted request gives are the ones in its model when no declaration does any of
  this.
-/

namespace TaskOrchestrator.Optimizer

open Library TaskOrchestrator.Core

set_option autoImplicit false

inductive ValueKind where
  | integer
  | flag
  | other
  deriving DecidableEq

/-- The fields of a declaration, and where the ones with a number or a flag are stored. -/
structure FieldTable (φ γ : Type) where
  known : String → Option φ
  kind : φ → ValueKind
  storedInt : φ → γ → Option Int
  storedFlag : φ → γ → Bool

section Fields

variable {φ γ : Type} (table : FieldTable φ γ)

structure ValuesKept (tokens : List (List Char)) (declared : γ) : Prop where
  integers : ∀ known value, table.kind known = .integer → Gives table.known tokens known value →
    ∃ n, Text.IsNumeral value n ∧ table.storedInt known declared = some n
  flags : ∀ known value, table.kind known = .flag → Gives table.known tokens known value →
    value = "true".toList ∧ table.storedFlag known declared = true ∨
      value = "false".toList ∧ table.storedFlag known declared = false

/-- Nothing follows the digits of a number, flags are one of two words, and a field that is given
again is given the same. -/
structure WellFormed (tokens : List (List Char)) : Prop where
  digits : ∀ known value, table.kind known = .integer → Gives table.known tokens known value →
    ∀ c ∈ Text.unsigned value, c.isDigit = true
  words : ∀ known value, table.kind known = .flag → Gives table.known tokens known value →
    value = "true".toList ∨ value = "false".toList
  sameNumber : ∀ known value value', table.kind known = .integer →
    Gives table.known tokens known value →
    Gives table.known tokens known value' → Text.readInt value = Text.readInt value'
  sameWord : ∀ known value value', table.kind known = .flag → Gives table.known tokens known value →
    Gives table.known tokens known value' → value = value'

variable {α : Type} (setField : φ → List Char → α → Except ParseFailure α) (view : α → γ)

structure Stores : Prop where
  integer : ∀ {known value a b}, table.kind known = .integer → setField known value a = .ok b →
    ∃ n, Text.readInt (value.dropWhile isSpace) = some n ∧ table.storedInt known (view b) = some n
  flag : ∀ {known value a b}, table.kind known = .flag → setField known value a = .ok b →
    table.storedFlag known (view b) = decide (value = "true".toList)
  frame : ∀ {known other value a b}, other ≠ known → setField known value a = .ok b →
    table.storedInt other (view b) = table.storedInt other (view a) ∧
      table.storedFlag other (view b) = table.storedFlag other (view a)

variable {table setField view}

/-- What is stored for a field comes from one of the values given for it. -/
def StoredFrom (table : FieldTable φ γ) (known : φ) (value : List Char)
    (stored : Option Int × Bool) : Prop :=
  (table.kind known = .integer → ∃ n, Text.readInt (value.dropWhile isSpace) = some n ∧
    stored.1 = some n) ∧ (table.kind known = .flag → stored.2 = decide (value = "true".toList))

theorem parseFields_stored (hstores : Stores table setField view) {entityKind : String}
    {lineNumber : Nat} {tokens : List (List Char)} {a b : α}
    (h : parseFields entityKind table.known setField lineNumber tokens a = .ok b) {known : φ}
    {value : List Char} (hgiven : Gives table.known tokens known value) :
    ∃ last, Gives table.known tokens known last ∧
      StoredFrom table known last (table.storedInt known (view b),
        table.storedFlag known (view b)) := by
  have hset : ∀ {value a b}, setField known value a = .ok b →
      StoredFrom table known value (table.storedInt known (view b),
        table.storedFlag known (view b)) :=
    fun hnext => ⟨fun hkind => hstores.integer hkind hnext, fun hkind => hstores.flag hkind hnext⟩
  have hframe : ∀ {other value a b}, other ≠ known → setField other value a = .ok b →
      (table.storedInt known (view b), table.storedFlag known (view b)) =
        (table.storedInt known (view a), table.storedFlag known (view a)) := by
    intro other value a b hne hnext
    obtain ⟨hint, hflag⟩ := hstores.frame hne.symm hnext
    rw [hint, hflag]
  rcases parseFields_part
    (fun a => (table.storedInt known (view a), table.storedFlag known (view a)))
      (StoredFrom table known) hset hframe h with hlast | ⟨hnone, -⟩
  · exact hlast
  · exact absurd hgiven (hnone value)

theorem dropWhile_isSpace {value : List Char} (h : ∀ c ∈ Text.unsigned value, c.isDigit = true) :
    value.dropWhile isSpace = value := by
  cases value with
  | nil => rfl
  | cons c rest =>
    have hc : isSpace c = false := by
      rcases Text.head_of_unsigned h c rfl with rfl | rfl | hdigit
      · decide
      · decide
      · exact isSpace_of_isDigit hdigit
    rw [List.dropWhile_cons_of_neg (by simp [hc])]

theorem parseFields_valuesKept (hstores : Stores table setField view) {entityKind : String}
    {lineNumber : Nat} {tokens : List (List Char)} {a b : α}
    (h : parseFields entityKind table.known setField lineNumber tokens a = .ok b) :
    ValuesKept table tokens (view b) ↔ WellFormed table tokens := by
  constructor
  · intro hkept
    refine ⟨?_, ?_, ?_, ?_⟩
    · intro known value hkind hgiven
      obtain ⟨n, hnumeral, -⟩ := hkept.integers known value hkind hgiven
      exact hnumeral.2
    · intro known value hkind hgiven
      exact (hkept.flags known value hkind hgiven).imp And.left And.left
    · intro known value value' hkind hgiven hgiven'
      obtain ⟨n, hnumeral, hstored⟩ := hkept.integers known value hkind hgiven
      obtain ⟨n', hnumeral', hstored'⟩ := hkept.integers known value' hkind hgiven'
      rw [hnumeral.1, hnumeral'.1, ← hstored, ← hstored']
    · intro known value value' hkind hgiven hgiven'
      rcases hkept.flags known value hkind hgiven with ⟨rfl, hstored⟩ | ⟨rfl, hstored⟩
      · rcases hkept.flags known value' hkind hgiven' with ⟨rfl, -⟩ | ⟨-, hstored'⟩
        · rfl
        · exact absurd (hstored.symm.trans hstored') (by decide)
      · rcases hkept.flags known value' hkind hgiven' with ⟨-, hstored'⟩ | ⟨rfl, -⟩
        · exact absurd (hstored.symm.trans hstored') (by decide)
        · rfl
  · intro hwell
    refine ⟨?_, ?_⟩
    · intro known value hkind hgiven
      obtain ⟨last, hlast, hint, -⟩ := parseFields_stored hstores h hgiven
      obtain ⟨n, hread, hstored⟩ := hint hkind
      rw [dropWhile_isSpace (hwell.digits known last hkind hlast)] at hread
      have hvalue := (hwell.sameNumber known value last hkind hgiven hlast).trans hread
      exact ⟨n, ⟨hvalue, hwell.digits known value hkind hgiven⟩, hstored⟩
    · intro known value hkind hgiven
      obtain ⟨last, hlast, -, hflag⟩ := parseFields_stored hstores h hgiven
      obtain rfl := hwell.sameWord known value last hkind hgiven hlast
      have hstored := hflag hkind
      rcases hwell.words known value hkind hgiven with rfl | rfl
      · exact Or.inl ⟨rfl, hstored.trans (by decide)⟩
      · exact Or.inr ⟨rfl, hstored.trans (by decide)⟩

end Fields

def actorTable : FieldTable ActorField OptimizerActor where
  known := actorField
  kind
    | .capacity => .integer
    | _ => .other
  storedInt
    | .capacity, actor => some actor.capacity
    | _, _ => none
  storedFlag := fun _ _ => false

def taskTable : FieldTable TaskField OptimizerTask where
  known := taskField
  kind
    | .duration | .release | .latestStart | .deadline | .priority | .demand => .integer
    | .mandatory | .preemptible => .flag
    | _ => .other
  storedInt
    | .duration, task => some task.duration
    | .release, task => some task.releaseTime
    | .latestStart, task => task.latestStartTime
    | .deadline, task => task.deadline
    | .priority, task => some task.priority
    | .demand, task => some task.demand
    | _, _ => none
  storedFlag
    | .mandatory, task => task.mandatory
    | .preemptible, task => task.preemptible
    | _, _ => false

variable {stod : List Char → Option Rat}

theorem readNumber_eq_ok {bits : Nat} {value : List Char} {n : Int}
    (h : readNumber bits value = .ok n) :
    Text.readInt (value.dropWhile isSpace) = some n := by
  unfold readNumber at h
  split at h
  · exact absurd h (by simp)
  · rename_i m hread
    split_ifs at h
    rwa [← Except.ok.inj h]

theorem stores_actorTable : Stores actorTable (setActorField stod) id where
  integer := by
    intro known value a b hkind h
    cases known with
    | capacity =>
      obtain ⟨n, hn, rfl⟩ := map_eq_ok.mp h
      exact ⟨n, readNumber_eq_ok hn, rfl⟩
    | type | windows | capabilities | cost => exact absurd hkind (by decide)
  flag := by
    intro known value a b hkind h
    cases known <;> exact absurd hkind (by decide)
  frame := by
    intro known other value a b hne h
    cases known with
    | type | capabilities =>
      obtain rfl := Except.ok.inj h
      cases other <;> exact ⟨rfl, rfl⟩
    | windows | cost =>
      obtain ⟨_, _, rfl⟩ := map_eq_ok.mp h
      cases other <;> exact ⟨rfl, rfl⟩
    | capacity =>
      obtain ⟨_, _, rfl⟩ := map_eq_ok.mp h
      cases other with
      | capacity => exact absurd rfl hne
      | type | windows | capabilities | cost => exact ⟨rfl, rfl⟩

theorem stores_taskTable : Stores taskTable (setTaskField stod) DeclaredTask.task where
  integer := by
    intro known value a b hkind h
    obtain ⟨task, htask, rfl⟩ := map_eq_ok.mp h
    cases known with
    | duration | release | latestStart | deadline | priority | demand =>
      obtain ⟨n, hn, rfl⟩ := map_eq_ok.mp htask
      exact ⟨n, readNumber_eq_ok hn, rfl⟩
    | _ => exact absurd hkind (by decide)
  flag := by
    intro known value a b hkind h
    obtain ⟨task, htask, rfl⟩ := map_eq_ok.mp h
    cases known with
    | mandatory | preemptible =>
      obtain rfl := Except.ok.inj htask
      rfl
    | _ => exact absurd hkind (by decide)
  frame := by
    intro known other value a b hne h
    obtain ⟨task, htask, rfl⟩ := map_eq_ok.mp h
    cases known with
    | duration | release | latestStart | deadline | priority | distances | demand | tardinessCost
      | earlyStartBonus =>
      obtain ⟨_, _, rfl⟩ := map_eq_ok.mp htask
      cases other <;> first | exact ⟨rfl, rfl⟩ | exact absurd rfl hne
    | requiresType | allowedActor | preferredActor | dependsOn | mandatory | preemptible
      | requiresCapabilities | mutex =>
      obtain rfl := Except.ok.inj htask
      cases other <;> first | exact ⟨rfl, rfl⟩ | exact absurd rfl hne

/-- The checks at the end of a line change no stored number or flag. -/
theorem valuesKept_of_stored {φ γ : Type} {table : FieldTable φ γ}
    {tokens : List (List Char)} {x y : γ}
    (hint : ∀ known, table.storedInt known y = table.storedInt known x)
    (hflag : ∀ known, table.storedFlag known y = table.storedFlag known x) :
    ValuesKept table tokens y ↔ ValuesKept table tokens x := by
  constructor
  · rintro ⟨hintegers, hflags⟩
    exact ⟨by simpa only [hint] using hintegers, by simpa only [hflag] using hflags⟩
  · rintro ⟨hintegers, hflags⟩
    exact ⟨by simpa only [hint] using hintegers, by simpa only [hflag] using hflags⟩

theorem readsActor_valuesKept {tokens : List (List Char)} {actor : OptimizerActor}
    (h : ReadsActor stod tokens actor) :
    ValuesKept actorTable (tokens.drop 2) actor ↔ WellFormed actorTable (tokens.drop 2) := by
  have hread := h 0
  unfold declaredActor at hread
  split at hread
  · rename_i keyword id fields
    split_ifs at hread
    obtain ⟨declared, hfields, hfinish⟩ := bind_eq_ok.mp hread
    have hkept : ValuesKept actorTable fields declared ↔ WellFormed actorTable fields :=
      parseFields_valuesKept stores_actorTable hfields
    unfold finishActor at hfinish
    split_ifs at hfinish
    obtain rfl := Except.ok.inj hfinish
    have hwindow : ValuesKept actorTable fields (withDefaultWindow declared) ↔
        ValuesKept actorTable fields declared := by
      refine valuesKept_of_stored ?_ fun known => rfl
      intro known
      unfold withDefaultWindow
      cases known <;> split_ifs <;> rfl
    exact hwindow.trans hkept
  · exact absurd hread (by simp)

theorem readsTask_valuesKept {tokens : List (List Char)} {task : OptimizerTask}
    (h : ReadsTask stod tokens task) :
    ValuesKept taskTable (tokens.drop 2) task ↔ WellFormed taskTable (tokens.drop 2) := by
  have hread := h 0
  unfold declaredTask at hread
  split at hread
  · rename_i keyword id fields
    split_ifs at hread
    obtain ⟨declared, hfields, hfinish⟩ := bind_eq_ok.mp hread
    have hkept : ValuesKept taskTable fields declared.task ↔ WellFormed taskTable fields :=
      parseFields_valuesKept stores_taskTable hfields
    unfold finishTask at hfinish
    split_ifs at hfinish
    exact Except.ok.inj hfinish ▸ hkept
  · exact absurd hread (by simp)

/-- Each declaration's values are in the model as they are given, ids are unique and what is listed
is known. -/
structure FailsClosed (request : String) (model : OptimizationModel) : Prop where
  actors : List.Forall₂ (fun tokens actor => ValuesKept actorTable (tokens.drop 2) actor)
    ((requestLines request).filterMap RequestLine.actor?) model.actors
  tasks : List.Forall₂ (fun tokens task => ValuesKept taskTable (tokens.drop 2) task)
    ((requestLines request).filterMap RequestLine.task?) model.tasks
  references : ValidReferences model

structure WellFormedRequest (request : String) : Prop where
  actors : ∀ tokens ∈ (requestLines request).filterMap RequestLine.actor?,
    WellFormed actorTable (tokens.drop 2)
  tasks : ∀ tokens ∈ (requestLines request).filterMap RequestLine.task?,
    WellFormed taskTable (tokens.drop 2)

theorem fails_closed_iff {request : String} {model : OptimizationModel}
    (h : Accepts stod request model) :
    FailsClosed request model ↔ WellFormedRequest request := by
  obtain ⟨hdescribes, -, -, hvalid⟩ := accepts_iff_describes.mp h
  have hactors :=
    forall₂_iff_of_forall₂ (R := ReadsActor stod)
      (fun _ _ => readsActor_valuesKept) hdescribes.actors
  have htasks :=
    forall₂_iff_of_forall₂ (R := ReadsTask stod) (fun _ _ => readsTask_valuesKept) hdescribes.tasks
  constructor
  · intro hclosed
    exact ⟨hactors.mp hclosed.actors, htasks.mp hclosed.tasks⟩
  · intro hwell
    exact ⟨hactors.mpr hwell.actors, htasks.mpr hwell.tasks, hvalid⟩

/-- The example has no cost, so `stod` is never asked. -/
theorem fails_closed_iff_plain :
    FailsClosed plainRequest plainModel ↔ WellFormedRequest plainRequest :=
  fails_closed_iff (accepts_plainModel (fun _ => none) rfl)

/-- A duration is cut short. -/
theorem malformed_value_accepted :
    ¬ ∀ (stod : List Char → Option Rat) (request : String) (model : OptimizationModel),
    Accepts stod request model → FailsClosed request model := by
  intro hall
  have haccepts : Accepts (fun _ => none) "actor x type robot\ntask a duration 5abc" plainModel :=
    accepts_iff_describes.mpr
      ⟨⟨by decide, rfl, .cons (fun _ => rfl) .nil, .cons (fun _ => rfl) .nil⟩, by decide, by decide,
        validateModel_eq_none_iff.mp rfl⟩
  have htokens : (requestLines "actor x type robot\ntask a duration 5abc").filterMap
      RequestLine.task? =
      [["task".toList, "a".toList, "duration".toList, "5abc".toList]] := by decide
  have htasks := (hall _ _ _ haccepts).tasks
  rw [htokens] at htasks
  cases htasks with
  | cons hkept _ =>
    have hgiven : Gives taskField ["duration".toList, "5abc".toList] .duration "5abc".toList :=
      ⟨"duration".toList, List.mem_cons_self, rfl⟩
    obtain ⟨n, hnumeral, -⟩ := hkept.integers .duration "5abc".toList rfl hgiven
    exact absurd (hnumeral.2 'a' (by decide)) (by decide)

end TaskOrchestrator.Optimizer
