import Mathlib.Data.List.Induction

/-!
# Deterministic machines

A machine takes one action after another, each in the state that the actions before it
left. A condition on actions may look at that state. The rules are the ones for an
invariant, and for going back from a state to the last action of a kind.
-/

namespace TaskOrchestrator.Library

set_option autoImplicit false

section Machine

variable {σ α : Type} (step : σ → α → σ)

def runMachine (s : σ) (actions : List α) : σ := actions.foldl step s

@[simp]
theorem runMachine_nil (s : σ) : runMachine step s [] = s := rfl

@[simp]
theorem runMachine_cons (s : σ) (a : α) (rest : List α) :
    runMachine step s (a :: rest) = runMachine step (step s a) rest := rfl

theorem runMachine_append (s : σ) (first second : List α) :
    runMachine step s (first ++ second) = runMachine step (runMachine step s first) second :=
  List.foldl_append

theorem runMachine_concat (s : σ) (actions : List α) (a : α) :
    runMachine step s (actions ++ [a]) = step (runMachine step s actions) a := by
  rw [runMachine_append]
  rfl

def Meets (condition : σ → α → Prop) : σ → List α → Prop
  | _, [] => True
  | s, a :: rest => condition s a ∧ Meets condition (step s a) rest

instance Meets.decidable {condition : σ → α → Prop} [∀ s a, Decidable (condition s a)] :
    (s : σ) → (actions : List α) → Decidable (Meets step condition s actions)
  | _, [] => isTrue trivial
  | s, a :: rest =>
    haveI : Decidable (Meets step condition (step s a) rest) := Meets.decidable (step s a) rest
    inferInstanceAs (Decidable (condition s a ∧ Meets step condition (step s a) rest))

variable {step} {condition other : σ → α → Prop} {s : σ} {actions : List α}

theorem meets_append {first second : List α} :
    Meets step condition s (first ++ second) ↔
      Meets step condition s first ∧ Meets step condition (runMachine step s first) second := by
  induction first generalizing s with
  | nil => simp [Meets]
  | cons a rest ih =>
    simp only [List.cons_append, Meets, runMachine_cons, ih, and_assoc]

theorem meets_concat {a : α} :
    Meets step condition s (actions ++ [a]) ↔
      Meets step condition s actions ∧ condition (runMachine step s actions) a := by
  rw [meets_append]
  simp [Meets]

theorem Meets.mono (h : Meets step condition s actions) (himp : ∀ t a, condition t a → other t a) :
    Meets step other s actions := by
  induction actions generalizing s with
  | nil => trivial
  | cons a rest ih => exact ⟨himp s a h.1, ih h.2⟩

theorem Meets.and (h : Meets step condition s actions) (hother : Meets step other s actions) :
    Meets step (fun t a => condition t a ∧ other t a) s actions := by
  induction actions generalizing s with
  | nil => trivial
  | cons a rest ih => exact ⟨⟨h.1, hother.1⟩, ih h.2 hother.2⟩

theorem meets_of_forall (step : σ → α → σ) (s : σ) {kind : α → Prop} (h : ∀ a ∈ actions, kind a) :
    Meets step (fun _ a => kind a) s actions := by
  induction actions generalizing s with
  | nil => trivial
  | cons a rest ih =>
    exact ⟨h a List.mem_cons_self, ih (step s a) fun b hb => h b (List.mem_cons_of_mem _ hb)⟩

theorem Meets.invariant {P : σ → Prop} (h : Meets step condition s actions) (hs : P s)
    (hstep : ∀ t a, P t → condition t a → P (step t a)) : P (runMachine step s actions) := by
  induction actions generalizing s with
  | nil => exact hs
  | cons a rest ih => exact ih h.2 (hstep s a hs h.1)

/-- Two conditions that agree wherever the invariant holds. -/
theorem Meets.congr {Inv : σ → Prop} {third : σ → α → Prop} (hactions : Meets step third s actions)
    (hs : Inv s) (hkeeps : ∀ t a, Inv t → third t a → Inv (step t a))
    (hagree : ∀ t a, Inv t → third t a → (condition t a ↔ other t a)) :
    Meets step condition s actions ↔ Meets step other s actions := by
  induction actions generalizing s with
  | nil => exact Iff.rfl
  | cons a rest ih =>
    exact and_congr (hagree s a hs hactions.1) (ih hactions.2 (hkeeps s a hs hactions.1))

/-- The property holds in every state of a run, the first and the last included. -/
def Throughout (step : σ → α → σ) (P : σ → Prop) : σ → List α → Prop
  | s, [] => P s
  | s, a :: rest => P s ∧ Throughout step P (step s a) rest

theorem Throughout.start {P : σ → Prop} (h : Throughout step P s actions) : P s := by
  cases actions with
  | nil => exact h
  | cons a rest => exact h.1

theorem Throughout.mono {P Q : σ → Prop} (h : Throughout step P s actions) (himp : ∀ t, P t → Q t) :
    Throughout step Q s actions := by
  induction actions generalizing s with
  | nil => exact himp s h
  | cons a rest ih => exact ⟨himp s h.1, ih h.2⟩

theorem Meets.throughout {P : σ → Prop} (h : Meets step condition s actions) (hs : P s)
    (hstep : ∀ t a, P t → condition t a → P (step t a)) : Throughout step P s actions := by
  induction actions generalizing s with
  | nil => exact hs
  | cons a rest ih => exact ⟨hs, ih h.2 (hstep s a hs h.1)⟩

/-- An exact condition on the actions of a run: it keeps an invariant from which the property
follows, and an action that does not meet it breaks the property. -/
theorem throughout_iff_meets {P Inv : σ → Prop} (hsound : ∀ t, Inv t → P t)
    (hkeeps : ∀ t a, Inv t → other t a → condition t a → Inv (step t a))
    (hbreaks : ∀ t a, Inv t → other t a → ¬condition t a → ¬P (step t a))
    (hactions : Meets step other s actions) (hs : Inv s) :
    Throughout step P s actions ↔ Meets step condition s actions := by
  induction actions generalizing s with
  | nil => exact iff_of_true (hsound s hs) trivial
  | cons a rest ih =>
    obtain ⟨ha, hrest⟩ := hactions
    constructor
    · rintro ⟨-, hthroughout⟩
      have hcondition : condition s a := by
        by_contra hfails
        exact hbreaks s a hs ha hfails hthroughout.start
      exact ⟨hcondition, (ih hrest (hkeeps s a hs ha hcondition)).mp hthroughout⟩
    · rintro ⟨hcondition, hmeets⟩
      exact ⟨hsound s hs, (ih hrest (hkeeps s a hs ha hcondition)).mpr hmeets⟩

theorem last_of_kind (step : σ → α → σ) (kind : σ → α → Prop) (s : σ) (actions : List α) :
    Meets step (fun t a => ¬ kind t a) s actions ∨
      ∃ before a after, actions = before ++ a :: after ∧ kind (runMachine step s before) a ∧
        Meets step (fun t a => ¬ kind t a) (step (runMachine step s before) a) after := by
  induction actions using List.reverseRecOn with
  | nil => exact Or.inl trivial
  | append_singleton actions a ih =>
    by_cases hkind : kind (runMachine step s actions) a
    · exact Or.inr ⟨actions, a, [], rfl, hkind, trivial⟩
    · rcases ih with hnone | ⟨before, b, after, rfl, hb, hafter⟩
      · exact Or.inl (meets_concat.mpr ⟨hnone, hkind⟩)
      · refine Or.inr ⟨before, b, after ++ [a], by simp, hb, meets_concat.mpr ⟨hafter, ?_⟩⟩
        rw [runMachine_append, runMachine_cons] at hkind
        exact hkind

end Machine

end TaskOrchestrator.Library
