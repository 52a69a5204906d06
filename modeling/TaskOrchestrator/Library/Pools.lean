import TaskOrchestrator.Library.Program
import Mathlib.Logic.Function.Basic
import Mathlib.Tactic.Choose

/-!
# Pools of programs

Any number of programs run at the same time on one component, one atomic call at a time. Each has a
view of the state. Where no program changes the view of another one, and what a call replies and
does to its own view depends on that view and on inputs from outside alone, every program ends as it
would have ended without the others, for some inputs.
-/

namespace TaskOrchestrator.Library.Program

set_option autoImplicit false

variable {S : Signature} {α σ κ ν τ ι : Type}

section Pool

variable [DecidableEq ι]

/-- A run of a pool: the calls in order, each with the program that makes it and the state it
leaves. -/
inductive Pool (H : Handler S σ) :
    (ι → Program S α) → σ → List (ι × S.Op × σ) → (ι → Program S α) → σ → Prop where
  | idle (ps : ι → Program S α) (s : σ) : Pool H ps s [] ps s
  | step {ps qs : ι → Program S α} {s t : σ} {tr : List (ι × S.Op × σ)} (i : ι) {op : S.Op}
      {k : S.Reply op → Program S α} : ps i = call op k →
      Pool H (Function.update ps i (k (H op s).1)) (H op s).2 tr qs t →
      Pool H ps s ((i, op, (H op s).2) :: tr) qs t

/-- Follow a schedule of programs; `none` when it names a program that has ended. -/
def runPool (H : Handler S σ) :
    List ι → (ι → Program S α) → σ → Option (List (ι × S.Op × σ) × (ι → Program S α) × σ)
  | [], ps, s => some ([], ps, s)
  | i :: rest, ps, s =>
    match ps i with
    | ret _ => none
    | call op k =>
      (runPool H rest (Function.update ps i (k (H op s).1)) (H op s).2).map fun r =>
        ((i, op, (H op s).2) :: r.1, r.2)

theorem pool_of_runPool {H : Handler S σ} {sched : List ι} {ps qs : ι → Program S α} {s t : σ}
    {tr : List (ι × S.Op × σ)} (h : runPool H sched ps s = some (tr, qs, t)) :
    Pool H ps s tr qs t := by
  induction sched generalizing ps s tr with
  | nil =>
    obtain ⟨rfl, rfl, rfl⟩ : [] = tr ∧ ps = qs ∧ s = t := by simpa [runPool] using h
    exact .idle ps s
  | cons i rest ih =>
    unfold runPool at h
    split at h
    · exact absurd h (by simp)
    · rename_i op k hcall
      obtain ⟨⟨tr', r⟩, hr, he⟩ := Option.map_eq_some_iff.mp h
      cases he
      exact .step i hcall (ih hr)

def answer? : Program S α → Option α
  | ret a => some a
  | call _ _ => none

theorem exists_of_answer? {p : Program S α} (h : p.answer?.isSome = true) : ∃ a, p = ret a := by
  cases p with
  | ret a => exact ⟨a, rfl⟩
  | call op k => exact absurd h Bool.false_ne_true

/-- A schedule that fits, and whose result passes a test, gives a run of the pool. -/
theorem exists_pool {H : Handler S σ} {sched : List ι} {ps : ι → Program S α} {s : σ}
    {P : List (ι × S.Op × σ) × (ι → Program S α) × σ → Prop} [DecidablePred P]
    (h : (runPool H sched ps s).any (fun r => P r) = true) :
    ∃ tr qs t, Pool H ps s tr qs t ∧ P (tr, qs, t) := by
  cases hresult : runPool H sched ps s with
  | none => simp [hresult] at h
  | some r =>
    obtain ⟨tr, qs, t⟩ := r
    rw [hresult] at h
    exact ⟨tr, qs, t, pool_of_runPool hresult, by simpa using h⟩

theorem Pool.chain {H : Handler S σ} {ps qs : ι → Program S α} {s t : σ} {tr : List (ι × S.Op × σ)}
    (run : Pool H ps s tr qs t) : Chain H s (tr.map Prod.snd) t := by
  induction run with
  | idle ps s => rfl
  | step i hcall _ ih => exact ⟨rfl, ih⟩

end Pool

def prepend (x : τ) (readings : Nat → τ) : Nat → τ
  | 0 => x
  | n + 1 => readings n

/-- One monitor and one view for each program. `inputs` are the readings still to come from outside
the component, and `reads` are the calls that take the next one. -/
structure Separate (H : Handler S σ) (Inv : σ → Prop) (M : ι → Monitor S κ) (view : ι → σ → ν)
    (inputs : σ → Nat → τ) (reads : S.Op → Prop) : Prop where
  keeps : ∀ i k op s, Inv s → (M i).allows k op → Inv (H op s).2
  replies : ∀ i k op s, Inv s → (M i).allows k op → (M i).replies op (H op s).1
  /-- The view and the next reading decide what a call does. -/
  own : ∀ i k op s u, (M i).allows k op → view i u = view i s →
    (reads op → inputs u 0 = inputs s 0) →
    (H op u).1 = (H op s).1 ∧ view i (H op u).2 = view i (H op s).2
  other : ∀ i j, j ≠ i → ∀ k op s, (M j).allows k op → view i (H op s).2 = view i s
  taken : ∀ i k op s, (M i).allows k op → reads op → inputs (H op s).2 = fun n => inputs s (n + 1)
  left : ∀ i k op s, (M i).allows k op → ¬ reads op → inputs (H op s).2 = inputs s

variable [DecidableEq ι] {H : Handler S σ} {Inv : σ → Prop} {M : ι → Monitor S κ} {view : ι → σ → ν}
  {inputs : σ → Nat → τ} {reads : S.Op → Prop} {Q : ι → α → κ → Prop}
    {ps qs : ι → Program S α} {s t : σ}
  {tr : List (ι × S.Op × σ)}

theorem obeys_update {i : ι} {op : S.Op} {f : S.Reply op → Program S α} {k : ι → κ}
    (hcall : ps i = call op f) (hobeys : ∀ j, Obeys (M j) (Q j) (k j) (ps j)) {r : S.Reply op}
    (hr : (M i).replies op r) (j : ι) :
    Obeys (M j) (Q j) (Function.update k i ((M i).next (k i) op r) j)
      (Function.update ps i (f r) j) := by
  by_cases hj : j = i
  · subst hj
    have hi := hobeys j
    rw [hcall] at hi
    rw [Function.update_self, Function.update_self]
    exact hi.2 r hr
  · rw [Function.update_of_ne hj, Function.update_of_ne hj]
    exact hobeys j

omit [DecidableEq ι] in
theorem allows_of_obeys {i : ι} {op : S.Op} {f : S.Reply op → Program S α} {k : ι → κ}
    (hcall : ps i = call op f) (hobeys : ∀ j, Obeys (M j) (Q j) (k j) (ps j)) :
    (M i).allows (k i) op := by
  have hi := hobeys i
  rw [hcall] at hi
  exact hi.1

/-- What one allowed call preserves, a whole run preserves. The relation may look at the calls made
so far and at what each monitor knows. -/
theorem Pool.preserves (run : Pool H ps s tr qs t) (Rel : List (S.Op × σ) → σ → (ι → κ) → Prop)
    (step : ∀ log s k i op, Rel log s k → (M i).allows (k i) op → (M i).replies op (H op s).1 ∧
      Rel (log ++ [(op, (H op s).2)]) (H op s).2
      (Function.update k i ((M i).next (k i) op (H op s).1)))
    {k : ι → κ} (hobeys : ∀ j, Obeys (M j) (Q j) (k j) (ps j)) (log : List (S.Op × σ))
    (hrel : Rel log s k) :
    ∃ k', Rel (log ++ tr.map Prod.snd) t k' ∧ ∀ j, Obeys (M j) (Q j) (k' j) (qs j) := by
  induction run generalizing k log with
  | idle ps s => exact ⟨k, by simpa using hrel, hobeys⟩
  | @step ps qs s t tr j op f hcall _ ih =>
    obtain ⟨hreply, hnext⟩ := step log s k j op hrel (allows_of_obeys hcall hobeys)
    obtain ⟨k', hend, hobeys'⟩ := ih (obeys_update hcall hobeys hreply) _ hnext
    exact ⟨k', by simpa using hend, hobeys'⟩

/-- An invariant of the calls and the state that needs what the calling program knows from its own
calls. What a program knows outlasts the calls of the others. -/
theorem Pool.invariant (run : Pool H ps s tr qs t) {N : Monitor S κ} {R : α → κ → Prop}
    (Inv : List (S.Op × σ) → σ → Prop) (Know : List (S.Op × σ) → κ → Prop)
    (step : ∀ log s k op, Inv log s → Know log k → N.allows k op → N.replies op (H op s).1 ∧
      Inv (log ++ [(op, (H op s).2)]) (H op s).2 ∧
        Know (log ++ [(op, (H op s).2)]) (N.next k op (H op s).1))
    (lasts : ∀ log entry k, Know log k → Know (log ++ [entry]) k)
    (hobeys : ∀ j, ∃ k, (∀ log, Know log k) ∧ Obeys N R k (ps j)) (log : List (S.Op × σ))
    (hinv : Inv log s) :
    Inv (log ++ tr.map Prod.snd) t := by
  choose k hknow hk using hobeys
  obtain ⟨k', ⟨hend, -⟩, -⟩ := run.preserves (fun log u k => Inv log u ∧ ∀ j, Know log (k j))
    (fun log u k j op ⟨hu, hall⟩ hallows => by
      obtain ⟨hreply, hnext, hown⟩ := step log u (k j) op hu (hall j) hallows
      refine ⟨hreply, hnext, fun m => ?_⟩
      by_cases hm : m = j
      · subst hm
        rw [Function.update_self]
        exact hown
      · rw [Function.update_of_ne hm]
        exact lasts log _ (k m) (hall m)) hk log ⟨hinv, fun j => hknow j log⟩
  exact hend

theorem Pool.frame {μ : Type} (run : Pool H ps s tr qs t)
    (hkeeps : ∀ i k op s, Inv s → (M i).allows k op → Inv (H op s).2)
    (hreplies : ∀ i k op s, Inv s → (M i).allows k op → (M i).replies op (H op s).1) {aside : σ → μ}
    (haside : ∀ i k op s, (M i).allows k op → aside (H op s).2 = aside s) {k : ι → κ}
    (hobeys : ∀ j, Obeys (M j) (Q j) (k j) (ps j)) (hinv : Inv s) : aside t = aside s := by
  obtain ⟨k', ⟨-, hend⟩, -⟩ := run.preserves (fun _ u _ => Inv u ∧ aside u = aside s)
    (fun log u k i op ⟨hu, hsame⟩ hallows =>
      ⟨hreplies i (k i) op u hu hallows, hkeeps i (k i) op u hu hallows,
        (haside i (k i) op u hallows).trans hsame⟩) hobeys [] ⟨hinv, rfl⟩
  exact hend

/-- In every run of a pool each program that has ended gave the answer, and left its view as, it
gives and leaves when it runs alone. -/
theorem Pool.alone (run : Pool H ps s tr qs t) (hsep : Separate H Inv M view inputs reads)
    {k : ι → κ} (hobeys : ∀ j, Obeys (M j) (Q j) (k j) (ps j)) (hinv : Inv s) (i : ι) {a : α}
    (hend : qs i = ret a) :
    ∃ readings : Nat → τ, ∀ u, view i u = view i s → inputs u = readings →
      ((ps i).run H u).1 = a ∧ view i ((ps i).run H u).2 = view i t := by
  induction run generalizing k with
  | idle ps s =>
    refine ⟨inputs s, fun u hview _ => ?_⟩
    rw [hend]
    exact ⟨rfl, hview⟩
  | @step ps qs s t tr j op f hcall _ ih =>
    have hallows := allows_of_obeys hcall hobeys
    have hreply := hsep.replies j (k j) op s hinv hallows
    obtain ⟨rest, hrest⟩ :=
      ih (obeys_update hcall hobeys hreply) (hsep.keeps j (k j) op s hinv hallows) hend
    by_cases hj : i = j
    · subst hj
      rw [Function.update_self] at hrest
      by_cases hreads : reads op
      · -- the reading that the call took comes first
        refine ⟨prepend (inputs s 0) rest, fun u hview hinputs => ?_⟩
        obtain ⟨hfst, hsnd⟩ := hsep.own i (k i) op s u hallows hview fun _ => congrFun hinputs 0
        have htail : inputs (H op u).2 = rest := by
          rw [hsep.taken i (k i) op u hallows hreads, hinputs]
          rfl
        rw [hcall, Program.run, hfst]
        exact hrest _ hsnd htail
      · refine ⟨rest, fun u hview hinputs => ?_⟩
        obtain ⟨hfst, hsnd⟩ := hsep.own i (k i) op s u hallows hview fun h => absurd h hreads
        have htail : inputs (H op u).2 = rest := by
          rw [hsep.left i (k i) op u hallows hreads, hinputs]
        rw [hcall, Program.run, hfst]
        exact hrest _ hsnd htail
    · rw [Function.update_of_ne hj] at hrest
      refine ⟨rest, fun u hview hinputs => hrest u ?_ hinputs⟩
      rw [hsep.other i j (Ne.symm hj) (k j) op s hallows]
      exact hview

end TaskOrchestrator.Library.Program
