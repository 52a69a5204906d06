import Mathlib.Algebra.BigOperators.Group.List.Basic
import Mathlib.Algebra.Order.Group.Int
import Mathlib.Algebra.Order.BigOperators.Group.List
import Mathlib.Algebra.Ring.Int.Defs
import Mathlib.Data.Int.Range

/-!
# Weighted intervals

Items of any type that are in force from one instant up to another, with a weight each. The
load at an instant is the summed weight of the items in force there. A new item that
fits at each of its own instants breaks no bound that held at the instants of the others,
whatever the signs of the weights.
-/

namespace TaskOrchestrator.Library

set_option autoImplicit false

theorem sum_map_le_of_subset {α : Type} {weight : α → Int} (hnonneg : ∀ a, 0 ≤ weight a)
    {items others : List α} (hnodup : items.Nodup) (hsub : items ⊆ others) :
    (items.map weight).sum ≤ (others.map weight).sum := by
  obtain ⟨same, hperm, hsublist⟩ := List.subperm_of_subset hnodup hsub
  rw [← (hperm.map weight).sum_eq]
  apply (hsublist.map weight).sum_le_sum
  intro w hw
  obtain ⟨a, -, rfl⟩ := List.mem_map.mp hw
  exact hnonneg a

structure Weighing (α : Type) where
  start : α → Int
  stop : α → Int
  weight : α → Int

namespace Weighing

variable {α : Type} (w : Weighing α)

def Covers (a : α) (instant : Int) : Prop := w.start a ≤ instant ∧ instant < w.stop a

instance (a : α) (instant : Int) :
    Decidable (w.Covers a instant) := inferInstanceAs (Decidable (_ ∧ _))

def load (items : List α) (instant : Int) : Int :=
  (items.map fun a => if w.Covers a instant then w.weight a else 0).sum

@[simp]
theorem load_nil (instant : Int) : w.load [] instant = 0 := rfl

@[simp]
theorem load_append (xs ys : List α) (instant : Int) :
    w.load (xs ++ ys) instant = w.load xs instant + w.load ys instant := by
  simp [load]

theorem load_singleton (a : α) (instant : Int) :
    w.load [a] instant = if w.Covers a instant then w.weight a else 0 := by
  simp [load]

def inForce (items : List α) (instant : Int) : List α := items.filter fun a => w.Covers a instant

theorem mem_inForce {items : List α} {instant : Int} {a : α} :
    a ∈ w.inForce items instant ↔ a ∈ items ∧ w.Covers a instant := by
  simp [inForce]

theorem load_eq_sum_inForce (items : List α) (instant : Int) :
    w.load items instant = ((w.inForce items instant).map w.weight).sum := by
  induction items with
  | nil => rfl
  | cons a rest ih =>
    have hcons : w.load (a :: rest) instant = w.load [a] instant + w.load rest instant :=
      w.load_append [a] rest instant
    rw [hcons, load_singleton, ih]
    by_cases hcovers : w.Covers a instant
    · simp [inForce, hcovers]
    · simp [inForce, hcovers]

theorem load_perm {xs ys : List α} (h : xs.Perm ys) (instant : Int) :
    w.load xs instant = w.load ys instant :=
  (h.map _).sum_eq

/-- An accumulation from left to right adds the load to what it starts with. -/
theorem foldl_load (items : List α) (instant first : Int) :
    items.foldl (fun sum a => if w.Covers a instant then sum + w.weight a else sum) first =
      first + w.load items instant := by
  induction items generalizing first with
  | nil => simp
  | cons a rest ih =>
    have hcons : w.load (a :: rest) instant = w.load [a] instant + w.load rest instant :=
      w.load_append [a] rest instant
    rw [List.foldl_cons, ih, hcons, load_singleton]
    by_cases hcovers : w.Covers a instant
    · rw [if_pos hcovers, if_pos hcovers]
      omega
    · rw [if_neg hcovers, if_neg hcovers]
      omega

def Within (base : Int → Int) (bound : Int) (items : List α) : Prop :=
  ∀ a ∈ items, ∀ instant, w.Covers a instant → base instant + w.load items instant ≤ bound

instance (base : Int → Int) (bound : Int) (items : List α) :
    Decidable (w.Within base bound items) :=
  decidable_of_iff (∀ a ∈ items, ∀ instant ∈ Int.range (w.start a) (w.stop a),
    base instant + w.load items instant ≤ bound) (by simp only [Within, Covers, Int.mem_range_iff])

variable {w} {base : Int → Int} {bound : Int} {items : List α}

theorem Within.append {a : α} (h : w.Within base bound items)
    (hfits : ∀ instant, w.Covers a instant →
      base instant + w.load items instant + w.weight a ≤ bound) :
    w.Within base bound (items ++ [a]) := by
  intro b hb instant hcovers
  rw [load_append, load_singleton]
  -- An instant of an earlier item is an instant of the new one or keeps its load.
  by_cases hnew : w.Covers a instant
  · have hbound := hfits instant hnew
    rw [if_pos hnew]
    omega
  · rw [if_neg hnew]
    rcases List.mem_append.mp hb with hb | hb
    · have hbound := h b hb instant hcovers
      omega
    · obtain rfl := List.mem_singleton.mp hb
      exact absurd hcovers hnew

theorem Within.perm {others : List α} (h : w.Within base bound items) (hperm : items.Perm others) :
    w.Within base bound others := by
  intro a ha instant hcovers
  rw [← w.load_perm hperm]
  exact h a (hperm.mem_iff.mpr ha) instant hcovers

end Weighing

end TaskOrchestrator.Library
