import Mathlib.Data.List.Basic
import Mathlib.Data.List.Infix

/-!
# Readers

A reader takes one symbol after another and emits what it has recognised. It does not look ahead, so
that what it emits for a part of a text is a part of what it emits for the whole. The second of two
readers in a row reads what the first one emits.
-/

namespace TaskOrchestrator.Library

set_option autoImplicit false

structure Reader (σ α β : Type) where
  step : σ → α → σ × List β

namespace Reader

variable {σ τ α β γ : Type}

/-- The state after a text, and what was emitted. -/
def run (R : Reader σ α β) (s : σ) : List α → σ × List β
  | [] => (s, [])
  | a :: rest =>
    let next := R.step s a
    let after := R.run next.1 rest
    (after.1, next.2 ++ after.2)

variable {R : Reader σ α β} {s : σ}

@[simp]
theorem run_nil (R : Reader σ α β) (s : σ) : R.run s [] = (s, []) := rfl

theorem run_cons (R : Reader σ α β) (s : σ) (a : α) (rest : List α) :
    R.run s
    (a :: rest) = ((R.run (R.step s a).1 rest).1, (R.step s a).2 ++
      (R.run (R.step s a).1 rest).2) := rfl

theorem run_append (R : Reader σ α β) (s : σ) (first second : List α) :
    R.run s (first ++ second) =
      ((R.run (R.run s first).1 second).1, (R.run s first).2 ++
        (R.run (R.run s first).1 second).2) := by
  induction first generalizing s with
  | nil => simp
  | cons a rest ih =>
    rw [List.cons_append, run_cons, run_cons, ih, List.append_assoc]

theorem run_cons_of_step {s t : σ} {a : α} {out : List β} (h : R.step s a = (t, out))
    (rest : List α) :
    R.run s (a :: rest) = ((R.run t rest).1, out ++ (R.run t rest).2) := by
  rw [run_cons, h]

theorem run_append_of_run {s t : σ} {first : List α} {out : List β} (h : R.run s first = (t, out))
    (second : List α) :
    R.run s (first ++ second) = ((R.run t second).1, out ++ (R.run t second).2) := by
  rw [run_append, h]

theorem emitted_prefix {part whole : List α} (h : part <+: whole) :
    (R.run s part).2 <+: (R.run s whole).2 := by
  obtain ⟨rest, rfl⟩ := h
  rw [run_append]
  exact List.prefix_append _ _

theorem run_of_stuck (hstuck : ∀ a, R.step s a = (s, [])) (text : List α) :
    R.run s text = (s, []) := by
  induction text with
  | nil => rfl
  | cons a rest ih => rw [run_cons_of_step (hstuck a), ih, List.append_nil]

/-- When every symbol after an accepting state leads to a state that is never left, no part of a
text that ends in an accepting state does so too. -/
theorem whole_of_accepting (stuck : σ) (accepting : σ → Prop)
    (hstuck : ∀ a, R.step stuck a = (stuck, []))
    (hafter : ∀ t a, accepting t → R.step t a = (stuck, [])) (hrejects : ¬ accepting stuck)
    {part whole : List α} (hbytes : part <+: whole) (hpart : accepting (R.run s part).1)
    (hwhole : accepting (R.run s whole).1) :
    part = whole := by
  obtain ⟨rest, rfl⟩ := hbytes
  cases rest with
  | nil => rw [List.append_nil]
  | cons a rest =>
    have hend : (R.run s (part ++ a :: rest)).1 = stuck := by
      rw [run_append, run_cons_of_step (hafter _ a hpart), run_of_stuck hstuck]
    rw [hend] at hwhole
    exact absurd hwhole hrejects

/-- The second reader reads what the first one emits. -/
def andThen (R : Reader σ α β) (Q : Reader τ β γ) : Reader (σ × τ) α γ where
  step s a :=
    let read := R.step s.1 a
    let reread := Q.run s.2 read.2
    ((read.1, reread.1), reread.2)

theorem run_andThen (R : Reader σ α β) (Q : Reader τ β γ) (s : σ) (t : τ) (text : List α) :
    (R.andThen Q).run (s, t) text =
      (((R.run s text).1, (Q.run t (R.run s text).2).1), (Q.run t (R.run s text).2).2) := by
  induction text generalizing s t with
  | nil => rfl
  | cons a rest ih =>
    rw [run_cons, run_cons, run_append]
    change (((R.andThen Q).run ((R.step s a).1, (Q.run t (R.step s a).2).1) rest).1, _ ++
      ((R.andThen Q).run ((R.step s a).1, (Q.run t (R.step s a).2).1) rest).2) = _
    rw [ih]
    rfl

end Reader

end TaskOrchestrator.Library
