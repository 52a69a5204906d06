import Mathlib.Data.List.Basic
import Mathlib.Data.List.Induction
import Mathlib.Logic.Relation
import Mathlib.Order.WithBot

/-!
# Depth-first search of a tree

A search goes down a tree whose children are computed from the state at a node, cuts nodes
that the results so far rule out, and looks at the leaves. The rules are the ones for what
every leaf gives, for a depth that is enough, and for a search of the best leaf: if a node is
cut only when no leaf below it is better, the best of all leaves is found, as by the search
that cuts nothing.
-/

namespace TaskOrchestrator.Library

set_option autoImplicit false

structure TreeSearch (σ β : Type) where
  visit : β → β
  enter : σ → σ
  cut : σ → β → Bool
  cutResult : β → β
  /-- No children mark a leaf; an empty list marks a dead end. -/
  children : σ → Option (List σ)
  leaf : σ → β → β

namespace TreeSearch

variable {σ β : Type} (t : TreeSearch σ β)

def explore : Nat → σ → β → β
  | 0, _, result => result
  | depth + 1, node, result =>
    let result := t.visit result
    let state := t.enter node
    if t.cut state result then t.cutResult result
    else match t.children state with
      | none => t.leaf state result
      | some nodes => nodes.foldl (fun result child => explore depth child result) result

/-- The second state is the one at a child of the first. -/
def Step (s next : σ) : Prop :=
  ∃ nodes child, t.children s = some nodes ∧ child ∈ nodes ∧ next = t.enter child

/-- The second state stands at or below the first. -/
def Below : σ → σ → Prop := Relation.ReflTransGen t.Step

variable {t}

theorem Below.refl (s : σ) : t.Below s s := Relation.ReflTransGen.refl

theorem Below.child {s u child : σ} {nodes : List σ} (hnodes : t.children s = some nodes)
    (hchild : child ∈ nodes) (h : t.Below (t.enter child) u) : t.Below s u :=
  Relation.ReflTransGen.head ⟨nodes, child, hnodes, hchild, rfl⟩ h

theorem Below.invariant {Inv : σ → Prop} {s u : σ} (h : t.Below s u) (hs : Inv s)
    (hstep : ∀ v w, Inv v → t.Step v w → Inv w) : Inv u := by
  induction h with
  | refl => exact hs
  | tail _ hlast ih => exact hstep _ _ ih hlast

theorem Below.cases_leaf {s u : σ} (h : t.Below s u) (hleaf : t.children u = none) :
    s = u ∨ ∃ nodes child, t.children s = some nodes ∧ child ∈ nodes ∧ t.Below
    (t.enter child) u := by
  rcases Relation.ReflTransGen.cases_head h with rfl
    | ⟨v, ⟨nodes, child, hnodes, hchild, rfl⟩, hrest⟩
  · exact Or.inl rfl
  · exact Or.inr ⟨nodes, child, hnodes, hchild, hrest⟩

theorem Below.eq_of_leaf {s u : σ} (h : t.Below s u) (hleaf : t.children s = none) : u = s := by
  rcases Relation.ReflTransGen.cases_head h with rfl | ⟨v, ⟨nodes, child, hnodes, -, -⟩, -⟩
  · rfl
  · exact absurd (hleaf.symm.trans hnodes) (by simp)

theorem explore_of_cut {depth : Nat} {node : σ} {b : β}
    (hcut : t.cut (t.enter node) (t.visit b) = true) :
    t.explore (depth + 1) node b = t.cutResult (t.visit b) := by
  rw [explore]
  exact if_pos hcut

theorem explore_of_children {depth : Nat} {node : σ} {b : β} {nodes : List σ}
    (hcut : t.cut (t.enter node) (t.visit b) = false)
    (hnodes : t.children (t.enter node) = some nodes) :
    t.explore (depth + 1) node b =
      nodes.foldl (fun result child => t.explore depth child result) (t.visit b) := by
  rw [explore, hcut, if_neg Bool.false_ne_true, hnodes]

theorem explore_of_leaf {depth : Nat} {node : σ} {b : β}
    (hcut : t.cut (t.enter node) (t.visit b) = false) (hleaf : t.children (t.enter node) = none) :
    t.explore (depth + 1) node b = t.leaf (t.enter node) (t.visit b) := by
  rw [explore, hcut, if_neg Bool.false_ne_true, hleaf]

theorem foldl_keeps {α : Type} (Good : β → Prop) {f : β → α → β} {xs : List α}
    (h : ∀ x ∈ xs, ∀ b, Good b → Good (f b x)) {b : β} (hb : Good b) : Good (xs.foldl f b) := by
  induction xs generalizing b with
  | nil => exact hb
  | cons x rest ih =>
    rw [List.foldl_cons]
    exact ih (fun y hy => h y (List.mem_cons_of_mem x hy)) (h x List.mem_cons_self b hb)

/-- The search from the node comes to the state `s` with the result `c`, before it decides whether
to cut there. -/
inductive Visits (t : TreeSearch σ β) : Nat → σ → β → σ → β → Prop where
  | here {depth : Nat} {node : σ} {b : β} : Visits t (depth + 1) node b (t.enter node) (t.visit b)
  | child {depth : Nat} {node child : σ} {before after : List σ} {b c : β} {s : σ} :
      t.cut (t.enter node) (t.visit b) = false →
      t.children (t.enter node) = some (before ++ child :: after) →
      Visits t depth child (before.foldl (fun result child => t.explore depth child result)
        (t.visit b)) s c →
      Visits t (depth + 1) node b s c

theorem Visits.isBelow {depth : Nat} {node s : σ} {b c : β} (h : t.Visits depth node b s c) :
    t.Below (t.enter node) s := by
  induction h with
  | here => exact .refl _
  | child _ hnodes _ ih => exact ih.child hnodes (List.mem_append_right _ List.mem_cons_self)

/-- What holds at the first state and is kept by every step from a state that the search comes to
and does not cut holds at all that it comes to. -/
theorem Visits.invariant {Inv : σ → Prop} {depth : Nat} {node s : σ} {b c : β}
    (h : t.Visits depth node b s c) (hnode : Inv (t.enter node))
    (hstep : ∀ v d, t.Visits depth node b v d → t.cut v d = false → Inv v → ∀ u, t.Step v u →
      Inv u) : Inv s := by
  induction h with
  | here => exact hnode
  | @child depth node child before after b c s hcuts hnodes _ ih =>
    have hchild : child ∈ before ++ child :: after := List.mem_append_right _ List.mem_cons_self
    refine ih (hstep _ _ .here hcuts hnode _ ⟨_, child, hnodes, hchild, rfl⟩) fun v d hv => ?_
    exact hstep v d (.child hcuts hnodes hv)

/-- The states that the search comes to, each with the result at that point, in their order. -/
def visits (t : TreeSearch σ β) : Nat → σ → β → List (σ × β)
  | 0, _, _ => []
  | depth + 1, node, result =>
    let result := t.visit result
    let state := t.enter node
    (state, result) ::
      if t.cut state result then []
      else match t.children state with
        | none => []
        | some nodes =>
          (nodes.foldl (fun seen child =>
            (seen.1 ++ visits t depth child seen.2, t.explore depth child seen.2))
            (([] : List (σ × β)), result)).1

theorem Visits.mem_visits {depth : Nat} {node s : σ} {b c : β} (h : t.Visits depth node b s c) :
    (s, c) ∈ t.visits depth node b := by
  induction h with
  | here => exact List.mem_cons_self
  | @child depth node child before after b c s hcuts hnodes _ ih =>
    rw [visits, hcuts, if_neg Bool.false_ne_true, hnodes]
    apply List.mem_cons_of_mem
    dsimp only
    have hresult : ∀ (nodes : List σ) (seen : List (σ × β) × β), (nodes.foldl (fun seen child =>
        (seen.1 ++ visits t depth child seen.2, t.explore depth child seen.2)) seen).2 =
          nodes.foldl (fun result child => t.explore depth child result) seen.2 := by
      intro nodes
      induction nodes with
      | nil => exact fun _ => rfl
      | cons first rest ihrest => exact fun seen => ihrest _
    rw [List.foldl_append, List.foldl_cons]
    -- What has been seen stays in the list.
    apply foldl_keeps fun seen : List (σ × β) × β => (s, c) ∈ seen.1
    · exact fun _ _ _ hseen => List.mem_append_left _ hseen
    · apply List.mem_append_right
      rw [hresult]
      exact ih

/-- What the leaves that are visited and the bookkeeping keep of a result is kept by the search. -/
theorem explore_keeps_visited (Good : β → Prop) (hvisit : ∀ b, Good b → Good (t.visit b))
    (hcut : ∀ b, Good b → Good (t.cutResult b)) (depth : Nat) {node : σ} {b : β}
    (hleaf : ∀ s c, t.Visits depth node b s c → t.children s = none → Good c → Good (t.leaf s c))
    (hb : Good b) :
    Good (t.explore depth node b) := by
  induction depth generalizing node b with
  | zero => exact hb
  | succ depth ih =>
    rw [explore]
    split_ifs with hcuts
    · exact hcut _ (hvisit b hb)
    · cases hnodes : t.children (t.enter node) with
      | none => exact hleaf _ _ .here hnodes (hvisit b hb)
      | some nodes =>
        have hwhole : ∀ before after, nodes = before ++ after →
            Good (before.foldl (fun result child => t.explore depth child result) (t.visit b)) := by
          intro before
          induction before using List.reverseRecOn with
          | nil => exact fun _ _ => hvisit b hb
          | append_singleton before child ihbefore =>
            intro after heq
            rw [List.append_assoc] at heq
            rw [List.foldl_append, List.foldl_cons, List.foldl_nil]
            have hchildren : t.children (t.enter node) = some (before ++ child :: after) :=
              hnodes.trans (congrArg some heq)
            exact ih (fun s c hs => hleaf s c (.child (Bool.eq_false_iff.mpr hcuts) hchildren hs))
              (ihbefore _ heq)
        exact hwhole nodes [] (List.append_nil nodes).symm

/-- What the leaves below a node and the bookkeeping keep of a result is kept by the search. -/
theorem explore_keeps (Good : β → Prop) (hvisit : ∀ b, Good b → Good (t.visit b))
    (hcut : ∀ b, Good b → Good (t.cutResult b)) (depth : Nat) {node : σ}
    (hleaf : ∀ s, t.Below (t.enter node) s → t.children s = none → ∀ b, Good b → Good (t.leaf s b))
    {b : β} (hb : Good b) : Good (t.explore depth node b) := by
  induction depth generalizing node b with
  | zero => exact hb
  | succ depth ih =>
    rw [explore]
    split_ifs with hcuts
    · exact hcut _ (hvisit b hb)
    · cases hnodes : t.children (t.enter node) with
      | none => exact hleaf _ (.refl _) hnodes _ (hvisit b hb)
      | some nodes =>
        apply foldl_keeps Good _ (hvisit b hb)
        intro child hchild c hc
        exact ih (fun s hs => hleaf s (hs.child hnodes hchild)) hc

/-- The children of a state are smaller than it. -/
def Shrinks (t : TreeSearch σ β) (size : σ → Nat) : Prop := ∀ s u, t.Step s u → size u < size s

section Depth

variable {size : σ → Nat} (hshrinks : t.Shrinks size)

include hshrinks in
/-- Any depth above the size of a node gives the whole tree below it. -/
theorem explore_depth {depth deeper : Nat} {node : σ} (hdepth : size (t.enter node) < depth)
    (hdeeper : size (t.enter node) < deeper) (b : β) :
    t.explore depth node b = t.explore deeper node b := by
  induction depth generalizing deeper node b with
  | zero => omega
  | succ depth ih =>
    obtain ⟨deeper, rfl⟩ : ∃ k, deeper = k + 1 := ⟨deeper - 1, by omega⟩
    simp only [explore]
    split_ifs with hcuts
    · rfl
    · cases hnodes : t.children (t.enter node) with
      | none => rfl
      | some nodes =>
        apply List.foldl_ext
        intro c child hchild
        have hsmaller := hshrinks _ _ ⟨nodes, child, hnodes, hchild, rfl⟩
        exact ih (by omega) (by omega) c

end Depth

/-- How a search keeps the best score of the leaves that it has looked at. -/
structure KeepsBest {S : Type} [LinearOrder S] (t : TreeSearch σ β) (score : σ → S)
    (value : β → WithBot S) :
    Prop where
  visit : ∀ b, value (t.visit b) = value b
  cutResult : ∀ b, value (t.cutResult b) = value b
  leaf : ∀ s b, value (t.leaf s b) = max (value b) (score s)

section Best

variable {S : Type} [LinearOrder S] {score : σ → S} {value : β → WithBot S}
variable (hbest : t.KeepsBest score value)

include hbest in
theorem value_le_explore (depth : Nat) (node : σ) (b : β) :
    value b ≤ value (t.explore depth node b) := by
  apply explore_keeps fun c => value b ≤ value c
  · intro c hc
    rwa [hbest.visit]
  · intro c hc
    rwa [hbest.cutResult]
  · intro s _ _ c hc
    rw [hbest.leaf]
    exact hc.trans (le_max_left _ _)
  · exact le_refl _

include hbest in
theorem value_le_foldl_explore (depth : Nat) (nodes : List σ) (b : β) :
    value b ≤ value (nodes.foldl (fun b child => t.explore depth child b) b) :=
  foldl_keeps (fun c => value b ≤ value c)
    (fun child _ c hc => hc.trans (value_le_explore hbest depth child c)) (le_refl _)

variable {size : σ → Nat} (hshrinks : t.Shrinks size)

include hbest hshrinks in
/-- If the search cuts only where no leaf below beats the best so far, it ends with a result that no
leaf beats. -/
theorem score_le_explore_visited {depth : Nat} {node : σ} {b : β}
    (hcut : ∀ s c, t.Visits depth node b s c → t.cut s c = true →
      ∀ u, t.Below s u → t.children u = none → (score u : WithBot S) ≤ value c)
    (hdepth : size (t.enter node) < depth) {u : σ} (hu : t.Below (t.enter node) u)
    (hleaf : t.children u = none) :
    (score u : WithBot S) ≤ value (t.explore depth node b) := by
  induction depth generalizing node b with
  | zero => omega
  | succ depth ih =>
    rw [explore]
    split_ifs with hcuts
    · rw [hbest.cutResult]
      exact hcut _ _ .here hcuts u hu hleaf
    · rcases hu.cases_leaf hleaf with rfl | ⟨nodes, child, hnodes, hchild, hbelow⟩
      · rw [hleaf]
        dsimp only
        rw [hbest.leaf]
        exact le_max_right _ _
      · -- The child is reached in the fold; what comes after it only improves the result.
        obtain ⟨before, after, rfl⟩ := List.append_of_mem hchild
        have hsmaller := hshrinks _ _ ⟨_, child, hnodes, hchild, rfl⟩
        rw [hnodes]
        dsimp only
        rw [List.foldl_append, List.foldl_cons]
        have hchildScore :=
          ih (fun s c hs => hcut s c (.child (Bool.eq_false_iff.mpr hcuts) hnodes hs))
            (by omega) hbelow
        exact hchildScore.trans (value_le_foldl_explore hbest depth after _)

include hbest hshrinks in
/-- If no node is cut before there is a result and no inner node is a dead end, the search ends
with a result. -/
theorem explore_ne_bot (hfirst : ∀ s b, value b = ⊥ → t.cut s b = false)
    (hchildren : ∀ s nodes, t.children s = some nodes → nodes ≠ []) {depth : Nat} {node : σ}
    (hdepth : size (t.enter node) < depth) (b : β) : value (t.explore depth node b) ≠ ⊥ := by
  induction depth generalizing node b with
  | zero => omega
  | succ depth ih =>
    by_cases hb : value b = ⊥
    · have hvisit : value (t.visit b) = ⊥ := (hbest.visit b).trans hb
      rw [explore]
      rw [hfirst _ _ hvisit, if_neg Bool.false_ne_true]
      cases hnodes : t.children (t.enter node) with
      | none =>
        dsimp only
        rw [hbest.leaf, hvisit, max_eq_right bot_le]
        exact WithBot.coe_ne_bot
      | some nodes =>
        cases nodes with
        | nil => exact absurd rfl (hchildren _ _ hnodes)
        | cons child rest =>
          have hsmaller := hshrinks _ _ ⟨_, child, hnodes, List.mem_cons_self, rfl⟩
          dsimp only
          rw [List.foldl_cons]
          have hsome := ih (by omega : size (t.enter child) < depth) (t.visit b)
          exact ne_bot_of_le_ne_bot hsome (value_le_foldl_explore hbest depth rest _)
    · exact ne_bot_of_le_ne_bot hb (value_le_explore hbest _ node b)

end Best

def uncut (t : TreeSearch σ β) : TreeSearch σ β := { t with cut := fun _ _ => false }

section Uncut

variable {S : Type} [LinearOrder S] {score : σ → S} {value : β → WithBot S}
variable (hbest : t.KeepsBest score value)

include hbest in
theorem KeepsBest.uncut :
    t.uncut.KeepsBest score value := ⟨hbest.visit, hbest.cutResult, hbest.leaf⟩

include hbest in
/-- Whether there is a result at all is kept like a score of which there is only one. -/
theorem KeepsBest.found : t.KeepsBest (fun _ => ()) fun b => (value b).map fun _ => () where
  visit b := congrArg _ (hbest.visit b)
  cutResult b := congrArg _ (hbest.cutResult b)
  leaf s b := by
    rw [hbest.leaf]
    cases value b with
    | bot => rfl
    | coe x => rfl

include hbest in
/-- What bounds the result so far and the leaves below a node bounds the result of the search. -/
theorem explore_le {depth : Nat} {node : σ} {b : β} {bound : WithBot S} (hb : value b ≤ bound)
    (hleaf : ∀ u, t.Below (t.enter node) u → t.children u = none → (score u : WithBot S) ≤ bound) :
    value (t.explore depth node b) ≤ bound := by
  refine explore_keeps (fun c => value c ≤ bound) ?_ ?_ depth ?_ hb
  · intro c hc
    rwa [hbest.visit]
  · intro c hc
    rwa [hbest.cutResult]
  · intro s hs hnone c hc
    rw [hbest.leaf]
    exact max_le hc (hleaf s hs hnone)

variable {size : σ → Nat} (hshrinks : t.Shrinks size)

include hbest hshrinks in
/-- If the search cuts only where no leaf below beats the best so far, it ends with the value that
it ends with when nothing is cut. -/
theorem value_explore_uncut_visited {depth : Nat} {node : σ} {b : β}
    (hcut : ∀ s c, t.Visits depth node b s c → t.cut s c = true →
      ∀ u, t.Below s u → t.children u = none → (score u : WithBot S) ≤ value c)
    (hdepth : size (t.enter node) < depth) :
    value (t.explore depth node b) = value (t.uncut.explore depth node b) := by
  apply le_antisymm
  · apply explore_le hbest (value_le_explore hbest.uncut depth node b)
    intro u hu hnone
    exact score_le_explore_visited hbest.uncut hshrinks (fun _ _ _ hfalse =>
      absurd hfalse Bool.false_ne_true) hdepth hu hnone
  · apply explore_le hbest.uncut (value_le_explore hbest depth node b)
    intro u hu hnone
    exact score_le_explore_visited hbest hshrinks hcut hdepth hu hnone

include hbest hshrinks in
/-- A search that cuts only when it has a result ends with one exactly when it does so without
cutting. -/
theorem explore_uncut_eq_bot_iff (hfirst : ∀ s b, value b = ⊥ → t.cut s b = false) {depth : Nat}
    {node : σ} (hdepth : size (t.enter node) < depth) (b : β) :
    value (t.explore depth node b) = ⊥ ↔ value (t.uncut.explore depth node b) = ⊥ := by
  have hfound :=
    @value_explore_uncut_visited _ _ _ _ _ _ _ hbest.found _ hshrinks depth node b ?_ hdepth
  · have hmap : ∀ x : WithBot S, (x.map fun _ => ()) = ⊥ ↔ x = ⊥ := fun x => WithBot.map_eq_bot_iff
    rw [← hmap, hfound, hmap]
  · intro s c _ hcuts u _ _
    cases hvalue : value c with
    | bot => exact absurd (hfirst s c hvalue ▸ hcuts) Bool.false_ne_true
    | coe x => exact le_refl _

end Uncut

end TreeSearch

end TaskOrchestrator.Library
