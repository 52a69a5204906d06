import Mathlib.Data.List.Basic

/-!
# Lists of updates

Updates are applied to a state one after another. Two laws say how much of a list matters. Where
an update makes its earlier occurrences superfluous, a list may be sent again. Where updates with
different keys commute, only the order within each key counts.
-/

namespace TaskOrchestrator.Library

set_option autoImplicit false

variable {ο σ κ : Type}

/-- On a good state an update that comes again later need not have come before. -/
structure LastWins (Good : σ → Prop) (act : σ → ο → σ) : Prop where
  keeps : ∀ s a, Good s → Good (act s a)
  again : ∀ s a, Good s → act (act s a) a = act s a
  superseded : ∀ s a b, Good s → act (act (act s a) b) a = act (act s b) a

namespace LastWins

variable {Good : σ → Prop} {act : σ → ο → σ} {s : σ}

/-- The earlier of two occurrences is superfluous, whatever stands between them. -/
theorem run_between (h : LastWins Good act) (a : ο) (between : List ο) (hs : Good s) :
    act (between.foldl act (act s a)) a = act (between.foldl act s) a := by
  induction between generalizing s with
  | nil => exact h.again s a hs
  | cons b rest ih =>
    have hb := h.keeps s b hs
    have hab := h.keeps _ b (h.keeps s a hs)
    calc act (rest.foldl act (act (act s a) b)) a
        = act (rest.foldl act (act (act (act s a) b) a)) a := (ih hab).symm
      _ = act (rest.foldl act (act (act s b) a)) a := by rw [h.superseded s a b hs]
      _ = act (rest.foldl act (act s b)) a := ih hb

/-- A list of updates that comes again later need not have come before. -/
theorem run_superseded (h : LastWins Good act) (list between : List ο) (hs : Good s) :
    list.foldl act (between.foldl act (list.foldl act s)) = list.foldl act
    (between.foldl act s) := by
  induction list generalizing s between with
  | nil => rfl
  | cons a rest ih =>
    have hfirst : act (between.foldl act (rest.foldl act (act s a))) a =
        act (between.foldl act (rest.foldl act s)) a := by
      rw [← List.foldl_append, ← List.foldl_append]
      exact h.run_between a _ hs
    have hrest := ih (between ++ [a]) hs
    rw [List.foldl_append, List.foldl_append] at hrest
    calc rest.foldl act (act (between.foldl act (rest.foldl act (act s a))) a)
        = rest.foldl act (act (between.foldl act (rest.foldl act s)) a) := by rw [hfirst]
      _ = rest.foldl act (act (between.foldl act s) a) := hrest

theorem run_twice (h : LastWins Good act) (list : List ο) (hs : Good s) :
    list.foldl act (list.foldl act s) = list.foldl act s :=
  h.run_superseded list [] hs

end LastWins

section Keys

variable {key : ο → κ} {act : σ → ο → σ}

theorem foldl_move_front
    (hcommute : ∀ s a b, key a ≠ key b → act (act s a) b = act (act s b) a) {a : ο} {front : List ο}
    (hfront : ∀ b ∈ front, key b ≠ key a) (s : σ) :
    act (front.foldl act s) a = front.foldl act (act s a) := by
  induction front generalizing s with
  | nil => rfl
  | cons b rest ih =>
    have hb : key b ≠ key a := hfront b List.mem_cons_self
    rw [List.foldl_cons, ih fun c hc => hfront c (List.mem_cons_of_mem _ hc), hcommute s b a hb,
      List.foldl_cons]

variable [DecidableEq κ]

def SameByKey (key : ο → κ) (list other : List ο) : Prop :=
  ∀ k, (list.filter fun a => key a = k) = other.filter fun a => key a = k

/-- Only the order within each key counts when different keys commute. -/
theorem foldl_eq_of_sameByKey
    (hcommute : ∀ s a b, key a ≠ key b → act (act s a) b = act (act s b) a) {list other : List ο}
    (h : SameByKey key list other) (s : σ) : list.foldl act s = other.foldl act s := by
  induction list generalizing other s with
  | nil =>
    cases other with
    | nil => rfl
    | cons b rest =>
      have hb := h (key b)
      simp at hb
  | cons a list ih =>
    have ha : (other.filter fun b => key b = key a) = a :: list.filter fun b => key b = key a := by
      rw [← h (key a)]
      simp
    obtain ⟨front, back, rfl, hfront, -, hback⟩ := List.filter_eq_cons_iff.mp ha
    have hfront : ∀ b ∈ front, key b ≠ key a := fun b hb => by simpa using hfront b hb
    have hrest : SameByKey key list (front ++ back) := by
      intro k
      by_cases hk : key a = k
      · subst hk
        have hnone : (front.filter fun b => key b = key a) = [] := by
          rw [List.filter_eq_nil_iff]
          intro b hb
          simpa using hfront b hb
        rw [List.filter_append, hnone, hback, List.nil_append]
      · have hother := h k
        simpa [List.filter_cons, hk] using hother
    rw [List.foldl_cons, ih hrest, List.foldl_append, List.foldl_append, List.foldl_cons,
      foldl_move_front hcommute hfront]

end Keys

end TaskOrchestrator.Library
