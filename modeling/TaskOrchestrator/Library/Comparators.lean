import Mathlib.Order.Lattice
import Mathlib.Order.Compare

/-!
# Comparators of a sort

A sort is given a test that says which of two elements is less. Elements of which neither is less
are tied, and the sort may arrange them in any way. Comparators are built by comparing keys, one
after another. A scan that keeps the least element so far ends with the least of all.
-/

namespace TaskOrchestrator.Library

set_option autoImplicit false

structure StrictWeak {α : Type} (less : α → α → Bool) : Prop where
  asymm : ∀ a b, less a b = true → less b a = false
  trans : ∀ a b c, less b a = false → less c b = false → less c a = false

def Tied {α : Type} (less : α → α → Bool) (a b : α) : Prop := less a b = false ∧ less b a = false

section Keys

variable {α κ : Type} [LinearOrder κ] (key : α → κ)

def byKey (a b : α) : Bool := decide (key a < key b)

def byKeyThen (rest : α → α → Bool) (a b : α) : Bool :=
  if key a ≠ key b then decide (key a < key b) else rest a b

variable {key} {rest : α → α → Bool}

theorem byKey_eq_false {a b : α} : byKey key a b = false ↔ key b ≤ key a := by
  rw [byKey, decide_eq_false_iff_not, not_lt]

theorem byKeyThen_eq_true {a b : α} :
    byKeyThen key rest a b = true ↔ key a < key b ∨ key a = key b ∧ rest a b = true := by
  by_cases hkey : key a = key b
  · simp [byKeyThen, hkey]
  · simp [byKeyThen, hkey]

theorem byKeyThen_eq_false {a b : α} :
    byKeyThen key rest a b = false ↔ key b < key a ∨ key b = key a ∧ rest a b = false := by
  by_cases hkey : key a = key b
  · simp [byKeyThen, hkey]
  · have hkey' : key b ≠ key a := Ne.symm hkey
    simp only [byKeyThen, ne_eq, hkey, not_false_eq_true, if_true, decide_eq_false_iff_not, not_lt,
      hkey', false_and, or_false]
    exact ⟨fun hle => lt_of_le_of_ne hle hkey', le_of_lt⟩

theorem strictWeak_byKey (key : α → κ) : StrictWeak (byKey key) where
  asymm _ _ h := byKey_eq_false.mpr (le_of_lt (of_decide_eq_true h))
  trans _ _ _ hab hbc :=
    byKey_eq_false.mpr (le_trans (byKey_eq_false.mp hab) (byKey_eq_false.mp hbc))

theorem StrictWeak.byKeyThen (key : α → κ) (h : StrictWeak rest) :
    StrictWeak (byKeyThen key rest) where
  asymm a b hab := by
    apply byKeyThen_eq_false.mpr
    rcases byKeyThen_eq_true.mp hab with hlt | ⟨heq, hrest⟩
    · exact Or.inl hlt
    · exact Or.inr ⟨heq, h.asymm a b hrest⟩
  trans a b c hab hbc := by
    apply byKeyThen_eq_false.mpr
    rcases byKeyThen_eq_false.mp hab with hlt | ⟨heq, hrest⟩
    · rcases byKeyThen_eq_false.mp hbc with hlt' | ⟨heq', -⟩
      · exact Or.inl (lt_trans hlt hlt')
      · exact Or.inl (heq' ▸ hlt)
    · rcases byKeyThen_eq_false.mp hbc with hlt' | ⟨heq', hrest'⟩
      · exact Or.inl (heq ▸ hlt')
      · exact Or.inr ⟨heq.trans heq', h.trans a b c hrest hrest'⟩

theorem Tied.key_eq {a b : α} (h : Tied (byKey key) a b) : key a = key b :=
  le_antisymm (byKey_eq_false.mp h.2) (byKey_eq_false.mp h.1)

theorem Tied.of_byKeyThen {a b : α} (h : Tied (byKeyThen key rest) a b) :
    key a = key b ∧ Tied rest a b := by
  rcases byKeyThen_eq_false.mp h.1 with hlt | ⟨heq, hrest⟩
  · rcases byKeyThen_eq_false.mp h.2 with hlt' | ⟨heq', -⟩
    · exact absurd hlt' (lt_asymm hlt)
    · exact absurd heq' (ne_of_gt hlt)
  · rcases byKeyThen_eq_false.mp h.2 with hlt' | ⟨-, hrest'⟩
    · exact absurd heq (ne_of_gt hlt')
    · exact ⟨heq.symm, hrest, hrest'⟩

end Keys

section ThreeWay

variable {α κ : Type} [LinearOrder κ]

theorem isLE_compareOfLessAndEq {x y : κ} : (compareOfLessAndEq x y).isLE ↔ x ≤ y := by
  unfold compareOfLessAndEq
  split_ifs with hlt heq
  · exact iff_of_true rfl (le_of_lt hlt)
  · exact iff_of_true rfl (le_of_eq heq)
  · refine iff_of_false Bool.false_ne_true fun hle => ?_
    exact hlt (lt_of_le_of_ne hle heq)

theorem decide_compareOfLessAndEq (x y : κ) :
    decide (compareOfLessAndEq x y = .lt) = decide (x < y) := by
  rcases lt_trichotomy x y with hlt | heq | hgt
  · simp [compareOfLessAndEq, hlt]
  · simp [compareOfLessAndEq, heq]
  · simp [compareOfLessAndEq, lt_asymm hgt, ne_of_gt hgt]

theorem decide_compareOfLessAndEq_then (x y : κ) (next : Ordering) :
    decide ((compareOfLessAndEq x y).then next = .lt) =
      if x ≠ y then decide (x < y) else decide (next = .lt) := by
  rcases lt_trichotomy x y with hlt | heq | hgt
  · simp [compareOfLessAndEq, hlt, ne_of_lt hlt]
  · simp [compareOfLessAndEq, heq]
  · simp [compareOfLessAndEq, lt_asymm hgt, ne_of_gt hgt]

theorem transCmp_byKey (key : α → κ) :
    Std.TransCmp fun a b => compareOfLessAndEq (key a) (key b) where
  eq_swap {a b} := by
    rcases lt_trichotomy (key a) (key b) with hlt | heq | hgt
    · simp [compareOfLessAndEq, hlt, lt_asymm hlt, ne_of_gt hlt]
    · simp [compareOfLessAndEq, heq]
    · simp [compareOfLessAndEq, hgt, lt_asymm hgt, ne_of_gt hgt]
  isLE_trans hab hbc := by
    rw [isLE_compareOfLessAndEq] at hab hbc ⊢
    exact le_trans hab hbc

end ThreeWay

section Scan

variable {α : Type} (cmp : α → α → Ordering)

/-- One element of a scan that keeps the least. -/
def keepLeast (best : Option α) (a : α) : Option α :=
  match best with
  | none => some a
  | some b => if cmp a b = .lt then some a else some b

structure IsFirst (s : α → Prop) (m : α) : Prop where
  mem : s m
  lt : ∀ a, s a → a ≠ m → cmp m a = .lt

variable {cmp}

theorem foldl_keepLeast_eq_none {xs : List α} : xs.foldl (keepLeast cmp) none = none ↔ xs = [] := by
  have hsome : ∀ (ys : List α) (b : α), (ys.foldl (keepLeast cmp) (some b)).isSome = true := by
    intro ys
    induction ys with
    | nil => exact fun b => rfl
    | cons a rest ih =>
      intro b
      simp only [List.foldl_cons, keepLeast]
      split_ifs
      · exact ih a
      · exact ih b
  cases xs with
  | nil => simp
  | cons a rest =>
    have hrest := hsome rest a
    simp only [List.foldl_cons, keepLeast, reduceCtorEq, iff_false]
    intro hnone
    rw [hnone] at hrest
    exact Bool.noConfusion hrest

variable [Std.TransCmp cmp]

theorem keepLeast_least {best : Option α} {a m : α} (h : keepLeast cmp best a = some m) :
    (m = a ∨ best = some m) ∧ (cmp m a).isLE ∧ ∀ b ∈ best, (cmp m b).isLE := by
  unfold keepLeast at h
  cases best with
  | none =>
    obtain rfl := Option.some.inj h
    exact ⟨Or.inl rfl, Std.ReflCmp.isLE_rfl, by simp⟩
  | some b =>
    dsimp only at h
    split_ifs at h with hlt
    · obtain rfl := Option.some.inj h
      refine ⟨Or.inl rfl, Std.ReflCmp.isLE_rfl, fun c hc => ?_⟩
      obtain rfl := Option.some.inj hc
      exact Ordering.isLE_of_eq_lt hlt
    · obtain rfl := Option.some.inj h
      refine ⟨Or.inr rfl, ?_, fun c hc => ?_⟩
      · by_contra hnot
        exact hlt (Std.OrientedCmp.lt_of_not_isLE hnot)
      · obtain rfl := Option.some.inj hc
        exact Std.ReflCmp.isLE_rfl

theorem foldl_keepLeast_least {xs : List α} {best : Option α} {m : α}
    (h : xs.foldl (keepLeast cmp) best = some m) :
    (m ∈ xs ∨ best = some m) ∧ (∀ a ∈ xs, (cmp m a).isLE) ∧ ∀ b ∈ best, (cmp m b).isLE := by
  induction xs generalizing best with
  | nil =>
    refine ⟨Or.inr h, by simp, fun b hb => ?_⟩
    obtain rfl := Option.some.inj (h.symm.trans hb)
    exact Std.ReflCmp.isLE_rfl
  | cons a rest ih =>
    obtain ⟨hmem, hrest, hbest⟩ := ih h
    obtain ⟨next, hnext⟩ : ∃ next, keepLeast cmp best a = some next := by
      unfold keepLeast
      cases best with
      | none => exact ⟨a, rfl⟩
      | some b =>
        dsimp only
        split_ifs
        · exact ⟨a, rfl⟩
        · exact ⟨b, rfl⟩
    obtain ⟨horigin, hfirst, hbefore⟩ := keepLeast_least hnext
    have hle := hbest next hnext
    refine ⟨?_, ?_, fun b hb => Std.TransCmp.isLE_trans hle (hbefore b hb)⟩
    · rcases hmem with hmem | hmem
      · exact Or.inl (List.mem_cons_of_mem a hmem)
      · obtain rfl := Option.some.inj (hnext.symm.trans hmem)
        rcases horigin with rfl | horigin
        · exact Or.inl List.mem_cons_self
        · exact Or.inr horigin
    · intro b hb
      rcases List.mem_cons.mp hb with rfl | hb
      · exact Std.TransCmp.isLE_trans hle hfirst
      · exact hrest b hb

/-- When no two elements are equivalent the scan ends with the one before all others. -/
theorem foldl_keepLeast_eq_some {xs : List α}
    (hdistinct : ∀ a ∈ xs, ∀ b ∈ xs, cmp a b = .eq → a = b) {m : α} :
    xs.foldl (keepLeast cmp) none = some m ↔ IsFirst cmp (fun a => a ∈ xs) m := by
  have hfirst : ∀ b, xs.foldl (keepLeast cmp) none = some b → IsFirst cmp (fun a => a ∈ xs) b := by
    intro b hb
    obtain ⟨hmem, hle, -⟩ := foldl_keepLeast_least hb
    replace hmem := hmem.resolve_right (by simp)
    refine ⟨hmem, fun a ha hne => ?_⟩
    cases hcmp : cmp b a with
    | lt => rfl
    | eq => exact absurd (hdistinct b hmem a ha hcmp).symm hne
    | gt =>
      have hisLE := hle a ha
      rw [hcmp] at hisLE
      exact Bool.noConfusion hisLE
  refine ⟨hfirst m, fun hm => ?_⟩
  cases hresult : xs.foldl (keepLeast cmp) none with
  | none =>
    rw [foldl_keepLeast_eq_none.mp hresult] at hm
    exact absurd hm.mem List.not_mem_nil
  | some b =>
    have hb := hfirst b hresult
    by_cases hne : b = m
    · rw [hne]
    · have hlt := hm.lt b hb.mem hne
      have hgt := hb.lt m hm.mem (Ne.symm hne)
      exact absurd (Std.OrientedCmp.gt_of_lt hlt) (by simp [hgt])

end Scan

end TaskOrchestrator.Library
