import TaskOrchestrator.Library.KeyedRows
import Mathlib.Algebra.BigOperators.Group.List.Basic
import Mathlib.Algebra.Ring.Int.Defs
import Mathlib.Data.List.Perm.Basic

/-!
# Rows of a linear program

A row keeps one coefficient for each variable, so that a coefficient that is set again replaces
the one before. Setting the coefficients of fresh variables adds their terms to the value of
the row; setting those of the same variables again leaves the later ones only.
-/

namespace TaskOrchestrator.Library

set_option autoImplicit false

namespace LinearRow

variable {κ α : Type} [DecidableEq κ] (value : κ → Int)

def eval (row : Dictionary κ Int) : Int := (row.rows.map fun entry => entry.2 * value entry.1).sum

/-- Each item sets the coefficient of its variable. -/
def setAll (row : Dictionary κ Int) (items : List α) (name : α → κ) (coefficient : α → Int) :
    Dictionary κ Int :=
  items.foldl (fun row a => row.assign (name a) (coefficient a)) row

omit [DecidableEq κ] in
theorem eval_empty : eval value KeyedRows.empty = 0 := rfl

/-- The value of a row is read off its coefficients, in any order. -/
theorem eval_congr {row other : Dictionary κ Int} (h : ∀ k, row.lookup k = other.lookup k) :
    eval value row = eval value other := by
  have hperm : row.rows.Perm other.rows := by
    rw [List.perm_ext_iff_of_nodup row.nodup.of_map other.nodup.of_map]
    intro entry
    rw [Dictionary.mem_rows_iff, Dictionary.mem_rows_iff, h]
  exact (hperm.map _).sum_eq

theorem eval_assign_new {row : Dictionary κ Int} {k : κ} (hnew : row.lookup k = none) (c : Int) :
    eval value (row.assign k c) = eval value row + c * value k := by
  have hfresh : k ∉ row.rows.map Prod.fst := by
    intro hmem
    obtain ⟨⟨l, v⟩, hentry, rfl⟩ := List.mem_map.mp hmem
    rw [Dictionary.mem_rows_iff, hnew] at hentry
    exact absurd hentry (by simp)
  have hrows : (row.assign k c).rows = row.rows ++ [(k, c)] := if_neg hfresh
  rw [eval, eval, hrows]
  simp

theorem lookup_setAll_of_notMem (row : Dictionary κ Int) {items : List α} {name : α → κ}
    (coefficient : α → Int) {k : κ} (hk : ∀ a ∈ items, name a ≠ k) :
    (setAll row items name coefficient).lookup k = row.lookup k := by
  rw [setAll, Dictionary.lookup_foldl_assign_items, List.find?_eq_none.mpr]
  · rfl
  · intro a ha heq
    exact hk a (List.mem_reverse.mp ha) (of_decide_eq_true heq)

theorem eval_setAll {row : Dictionary κ Int} {items : List α} {name : α → κ} (coefficient : α → Int)
    (hnodup : (items.map name).Nodup) (hnew : ∀ a ∈ items, row.lookup (name a) = none) :
    eval value (setAll row items name coefficient) =
      eval value row + (items.map fun a => coefficient a * value (name a)).sum := by
  induction items generalizing row with
  | nil => simp [setAll]
  | cons a rest ih =>
    obtain ⟨hfirst, hrest⟩ := List.nodup_cons.mp hnodup
    have hstill : ∀ b ∈ rest, (row.assign (name a) (coefficient a)).lookup (name b) = none := by
      intro b hb
      rw [Dictionary.lookup_assign, if_neg, hnew b (List.mem_cons_of_mem _ hb)]
      intro heq
      exact hfirst (heq ▸ List.mem_map_of_mem hb)
    calc eval value (setAll row (a :: rest) name coefficient)
        = eval value (setAll (row.assign (name a) (coefficient a)) rest name coefficient) := rfl
      _ = eval value (row.assign (name a) (coefficient a)) +
            (rest.map fun a => coefficient a * value (name a)).sum := ih hrest hstill
      _ = eval value row + ((a :: rest).map fun a => coefficient a * value (name a)).sum := by
        rw [eval_assign_new value (hnew a List.mem_cons_self), List.map_cons, List.sum_cons,
          Int.add_assoc]

/-- Coefficients that are set again replace the earlier ones. -/
theorem eval_setAll_setAll (row : Dictionary κ Int) (items : List α) (name : α → κ)
    (first second : α → Int) :
    eval value (setAll (setAll row items name first) items name second) =
      eval value (setAll row items name second) := by
  apply eval_congr
  intro k
  by_cases hk : ∃ a ∈ items, name a = k
  · have hfound : (items.reverse.find? fun a => name a = k).isSome := by
      rw [List.find?_isSome]
      obtain ⟨a, ha, heq⟩ := hk
      exact ⟨a, List.mem_reverse.mpr ha, decide_eq_true heq⟩
    obtain ⟨a, ha⟩ := Option.isSome_iff_exists.mp hfound
    simp [setAll, Dictionary.lookup_foldl_assign_items, ha]
  · have hnone : ∀ a ∈ items, name a ≠ k := fun a ha heq => hk ⟨a, ha, heq⟩
    rw [lookup_setAll_of_notMem _ second hnone, lookup_setAll_of_notMem _ first hnone,
      lookup_setAll_of_notMem _ second hnone]

end LinearRow

end TaskOrchestrator.Library
