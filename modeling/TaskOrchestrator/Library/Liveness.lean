import TaskOrchestrator.Library.Machine

/-!
# Machines that are driven for ever

The actions of the environment never end. One condition leads to another when every state that meets
the first is followed, sooner or later, by one that meets the second. The rules are those for a
condition that stays until a helpful action is taken, and for a measure that decreases.
-/

namespace TaskOrchestrator.Library

set_option autoImplicit false

section Liveness

variable {σ α : Type} (step : σ → α → σ)

def drive (s : σ) (actions : Nat → α) : Nat → σ
  | 0 => s
  | n + 1 => step (drive s actions n) (actions n)

theorem drive_invariant {P : σ → Prop} {s : σ} {actions : Nat → α} (hs : P s)
    (hstep : ∀ n, P (drive step s actions n) → P (step (drive step s actions n) (actions n)))
    (n : Nat) :
    P (drive step s actions n) := by
  induction n with
  | zero => exact hs
  | succ n ih => exact hstep n ih

variable {states : Nat → σ} {P Q R : σ → Prop}

theorem stays {n m : Nat} (hkeeps : ∀ k, P (states k) → P (states (k + 1))) (h : n ≤ m)
    (hn : P (states n)) :
    P (states m) := by
  induction m with
  | zero =>
    obtain rfl : n = 0 := by omega
    exact hn
  | succ m ih =>
    rcases Nat.lt_or_ge n (m + 1) with hlt | hge
    · exact hkeeps m (ih (by omega))
    · obtain rfl : n = m + 1 := by omega
      exact hn

def LeadsTo (states : Nat → σ) (P Q : σ → Prop) : Prop :=
  ∀ n, P (states n) → ∃ m, n ≤ m ∧ Q (states m)

/-- A condition that stays until the other one holds, which the helpful action brings about. -/
theorem LeadsTo.of_helpful (hunless : ∀ n, P (states n) → P (states (n + 1)) ∨ Q (states (n + 1)))
    (hhelps : ∀ n, P (states n) → ∃ m, n ≤ m ∧ (P (states m) → Q (states (m + 1)))) :
    LeadsTo states P Q := by
  intro n hn
  obtain ⟨m, hnm, hhelpful⟩ := hhelps n hn
  -- Until the helpful action, either the condition has stayed or the other one was met on the way.
  have hway : ∀ k, n ≤ k → P (states k) ∨ ∃ j, n ≤ j ∧ Q (states j) := by
    intro k hk
    induction k with
    | zero =>
      obtain rfl : n = 0 := by omega
      exact Or.inl hn
    | succ k ih =>
      rcases Nat.lt_or_ge n (k + 1) with hlt | hge
      · rcases ih (by omega) with hstill | hmet
        · rcases hunless k hstill with hstill | hmet
          · exact Or.inl hstill
          · exact Or.inr ⟨k + 1, hk, hmet⟩
        · exact Or.inr hmet
      · obtain rfl : n = k + 1 := by omega
        exact Or.inl hn
  rcases hway m hnm with hstill | hmet
  · exact ⟨m + 1, by omega, hhelpful hstill⟩
  · exact hmet

theorem reaches_of_decreasing (measure : σ → Nat)
    (h : ∀ n, ∃ m, n ≤ m ∧ (Q (states m) ∨ measure (states m) < measure (states n))) (n : Nat) :
    ∃ m, n ≤ m ∧ Q (states m) := by
  generalize hbound : measure (states n) = bound
  induction bound using Nat.strongRecOn generalizing n with
  | ind bound ih =>
    obtain ⟨m, hnm, hgoal | hless⟩ := h n
    · exact ⟨m, hnm, hgoal⟩
    · obtain ⟨k, hmk, hk⟩ := ih _ (hbound ▸ hless) m rfl
      exact ⟨k, by omega, hk⟩

end Liveness

end TaskOrchestrator.Library
