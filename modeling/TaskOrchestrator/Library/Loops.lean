import Mathlib.Data.List.Forall2

/-!
# Loops over lists

A loop that finds a value for each item of a list relates the items and the values one by one.
What holds of one of two related lists is carried over to the other.
-/

namespace TaskOrchestrator.Library

set_option autoImplicit false

variable {α β : Type}

section Loops

variable {m : Type → Type} [Monad m] [LawfulMonad m]

theorem mapM_eq_pure {f : α → m β} {g : α → β} {items : List α}
    (h : ∀ item ∈ items, f item = pure (g item)) :
    items.mapM f = pure (items.map g) := by
  induction items with
  | nil => rfl
  | cons item rest ih =>
    have hrest := ih fun x hx => h x (List.mem_cons_of_mem _ hx)
    rw [List.mapM_cons, h item List.mem_cons_self, hrest]
    simp

theorem foldlM_eq_pure {f : β → α → m β} {g : β → α → β} {items : List α}
    (h : ∀ b, ∀ item ∈ items, f b item = pure (g b item)) (b : β) :
    items.foldlM f b = pure (items.foldl g b) := by
  induction items generalizing b with
  | nil => rfl
  | cons item rest ih =>
    have hrest := ih fun b x hx => h b x (List.mem_cons_of_mem _ hx)
    rw [List.foldlM_cons, h b item List.mem_cons_self, pure_bind, hrest, List.foldl_cons]

end Loops

section Options

variable {f : α → Option β}

theorem mapM_eq_some_iff {items : List α} {values : List β} :
    items.mapM f = some values ↔ List.Forall₂ (fun item value => f item = some value) items
      values := by
  induction items generalizing values with
  | nil => simp [eq_comm]
  | cons item rest ih =>
    rw [List.mapM_cons, Option.bind_eq_bind, Option.bind_eq_some_iff, List.forall₂_cons_left_iff]
    simp only [Option.bind_eq_bind, Option.bind_eq_some_iff, Option.pure_def, Option.some.injEq, ih]
    constructor
    · rintro ⟨value, hvalue, values, hvalues, rfl⟩
      exact ⟨value, values, hvalue, hvalues, rfl⟩
    · rintro ⟨value, values, hvalue, hvalues, rfl⟩
      exact ⟨value, hvalue, values, hvalues, rfl⟩

/-- A list has values just if each item has, and a function that finds them gives the list of
values. -/
theorem mapM_eq_some_map_iff {items : List α} {values : List β} {g : α → β}
    (hg : ∀ item value, f item = some value → g item = value) :
    items.mapM f = some values ↔ (∀ item ∈ items, (f item).isSome) ∧ values = items.map g := by
  constructor
  · intro h
    rw [mapM_eq_some_iff] at h
    induction h with
    | nil => exact ⟨fun _ hitem => absurd hitem List.not_mem_nil, rfl⟩
    | cons hfirst _ ih =>
      refine ⟨List.forall_mem_cons.mpr ⟨by rw [hfirst]; rfl, ih.1⟩, ?_⟩
      rw [List.map_cons, hg _ _ hfirst, ih.2]
  · rintro ⟨hall, rfl⟩
    refine mapM_eq_pure (m := Option) fun item hitem => ?_
    obtain ⟨value, hvalue⟩ := Option.isSome_iff_exists.mp (hall item hitem)
    rw [hvalue, hg item value hvalue]
    rfl

end Options

section Related

variable {R : α → β → Prop} {left : List α} {right : List β}

theorem exists_append_forall₂_cons {x : α} {xs : List α} {start result : List β} :
    (∃ new, result = start ++ new ∧ List.Forall₂ R (x :: xs) new) ↔
      ∃ y, R x y ∧ ∃ new, result = start ++ [y] ++ new ∧ List.Forall₂ R xs new := by
  simp only [List.forall₂_cons_left_iff, List.append_assoc, List.singleton_append]
  constructor
  · rintro ⟨_, heq, y, new, hy, hnew, rfl⟩
    exact ⟨y, hy, new, heq, hnew⟩
  · rintro ⟨y, hy, new, heq, hnew⟩
    exact ⟨y :: new, heq, y, new, hy, hnew, rfl⟩

/-- Along two lists that are related, another relation holds if and only if a property does on the
left. -/
theorem forall₂_iff_of_forall₂ {S : α → β → Prop} {p : α → Prop}
    (hiff : ∀ a b, R a b → (S a b ↔ p a)) (h : List.Forall₂ R left right) :
    List.Forall₂ S left right ↔ ∀ a ∈ left, p a := by
  induction h with
  | nil => simp
  | cons hab _ ih => rw [List.forall₂_cons, List.forall_mem_cons, ih, hiff _ _ hab]

theorem exists_mem_iff_of_forall₂ {p : α → Prop} {q : β → Prop} (h : List.Forall₂ R left right)
    (hagree : ∀ a b, R a b → (p a ↔ q b)) : (∃ a ∈ left, p a) ↔ ∃ b ∈ right, q b := by
  induction h with
  | nil => simp
  | cons hfirst _ ih => simp only [List.mem_cons, exists_eq_or_imp, hagree _ _ hfirst, ih]

theorem forall_mem_of_forall₂ {p : α → Prop} {q : β → Prop} (h : List.Forall₂ R left right)
    (hall : ∀ a ∈ left, p a) (hcarry : ∀ a b, R a b → p a → q b) : ∀ b ∈ right, q b := by
  induction h with
  | nil => exact fun _ hb => absurd hb List.not_mem_nil
  | cons hfirst _ ih =>
    obtain ⟨hhead, htail⟩ := List.forall_mem_cons.mp hall
    exact List.forall_mem_cons.mpr ⟨hcarry _ _ hfirst hhead, ih htail⟩

theorem pairwise_of_forall₂ {S : α → α → Prop} {T : β → β → Prop} (h : List.Forall₂ R left right)
    (hpairs : left.Pairwise S) (hcarry : ∀ a a' b b', R a a' → R b b' → S a b → T a' b') :
    right.Pairwise T := by
  induction h with
  | nil => exact List.Pairwise.nil
  | cons hfirst hrest ih =>
    obtain ⟨hhead, htail⟩ := List.pairwise_cons.mp hpairs
    exact List.pairwise_cons.mpr
      ⟨forall_mem_of_forall₂ hrest hhead fun b b' hR hS => hcarry _ _ b b' hfirst hR hS, ih htail⟩

end Related

end TaskOrchestrator.Library
