/-!
# Programs of atomic calls

A program is a finite tree of calls to a shared component, each followed by a
continuation that reads the reply. One definition is given three meanings: a run
from start to end, a run cut after some number of calls, and an interleaving with
a second program. A `Monitor` follows the calls of one party; `Obeys` says that a
program respects a monitor whatever replies it gets, and the three rules at the
end of the file turn that into a fact about each of the three meanings.
-/

namespace TaskOrchestrator.Library

set_option autoImplicit false

/-- The calls a component offers and the type of the reply to each. -/
structure Signature where
  Op : Type
  Reply : Op → Type

/-- What a call does to the state of the component. -/
abbrev Handler (S : Signature) (σ : Type) := (op : S.Op) → σ → S.Reply op × σ

inductive Program (S : Signature) (α : Type) where
  | ret (a : α) : Program S α
  | call (op : S.Op) (k : S.Reply op → Program S α) : Program S α

namespace Program

variable {S : Signature} {α β σ : Type}

def bind : Program S α → (α → Program S β) → Program S β
  | ret a, f => f a
  | call op k, f => call op fun r => (k r).bind f

instance : Monad (Program S) where
  pure := ret
  bind := bind

/-- The program that makes one call and returns its reply. -/
def perform (op : S.Op) : Program S (S.Reply op) := call op ret

def run (H : Handler S σ) : Program S α → σ → α × σ
  | ret a, s => (a, s)
  | call op k, s => (k (H op s).1).run H (H op s).2

/-- The calls of a run in order, each with the state it leaves. -/
def steps (H : Handler S σ) : Program S α → σ → List (S.Op × σ)
  | ret _, _ => []
  | call op k, s => (op, (H op s).2) :: (k (H op s).1).steps H (H op s).2

/-- The calls of a run in order, each with the state in which it is made. -/
def asked (H : Handler S σ) : Program S α → σ → List (S.Op × σ)
  | ret _, _ => []
  | call op k, s => (op, s) :: (k (H op s).1).asked H (H op s).2

/-- The program is stopped after at most `n` calls: the calls made and the state left. -/
def cut (H : Handler S σ) : Nat → Program S α → σ → List (S.Op × σ) × σ
  | 0, _, s => ([], s)
  | _ + 1, ret _, s => ([], s)
  | n + 1, call op k, s =>
    let rest := cut H n (k (H op s).1) (H op s).2
    ((op, (H op s).2) :: rest.1, rest.2)

variable (H : Handler S σ)

@[simp] theorem run_pure (a : α) (s : σ) : (pure a : Program S α).run H s = (a, s) := rfl

@[simp] theorem run_bind (p : Program S α) (f : α → Program S β) (s : σ) :
    (p >>= f).run H s = (f (p.run H s).1).run H (p.run H s).2 := by
  change (p.bind f).run H s = _
  induction p generalizing s with
  | ret a => rfl
  | call op k ih => exact ih (H op s).1 (H op s).2

@[simp] theorem run_map (f : α → β) (p : Program S α) (s : σ) :
    (f <$> p).run H s = (f (p.run H s).1, (p.run H s).2) := by
  change (p.bind fun a => ret (f a)).run H s = _
  exact run_bind H p (fun a => ret (f a)) s

@[simp] theorem run_ite (c : Prop) [Decidable c] (p q : Program S α) (s : σ) :
    (if c then p else q).run H s = if c then p.run H s else q.run H s := by
  split <;> rfl

@[simp] theorem steps_bind (p : Program S α) (f : α → Program S β) (s : σ) :
    (p >>= f).steps H s = p.steps H s ++ (f (p.run H s).1).steps H (p.run H s).2 := by
  change (p.bind f).steps H s = _
  induction p generalizing s with
  | ret a => rfl
  | call op k ih => simp only [bind, steps, run, ih, List.cons_append]

@[simp] theorem steps_map (f : α → β) (p : Program S α) (s : σ) :
    (f <$> p).steps H s = p.steps H s := by
  have hsteps := steps_bind H p (fun a => ret (f a)) s
  rw [steps, List.append_nil] at hsteps
  exact hsteps

@[simp] theorem asked_bind (p : Program S α) (f : α → Program S β) (s : σ) :
    (p >>= f).asked H s = p.asked H s ++ (f (p.run H s).1).asked H (p.run H s).2 := by
  change (p.bind f).asked H s = _
  induction p generalizing s with
  | ret a => rfl
  | call op k ih => simp only [bind, asked, run, ih, List.cons_append]

@[simp] theorem asked_map (f : α → β) (p : Program S α) (s : σ) :
    (f <$> p).asked H s = p.asked H s := by
  have hasked := asked_bind H p (fun a => ret (f a)) s
  rw [asked, List.append_nil] at hasked
  exact hasked

/-- The log leads from the one state to the other, call by call. -/
def Chain (H : Handler S σ) : σ → List (S.Op × σ) → σ → Prop
  | s, [], t => t = s
  | s, (op, s') :: rest, t => s' = (H op s).2 ∧ Chain H s' rest t

theorem chain_steps (p : Program S α) (s : σ) : Chain H s (p.steps H s) (p.run H s).2 := by
  induction p generalizing s with
  | ret a => rfl
  | call op k ih => exact ⟨rfl, ih (H op s).1 (H op s).2⟩

theorem chain_cut (n : Nat) (p : Program S α) (s : σ) :
    Chain H s (p.cut H n s).1 (p.cut H n s).2 := by
  induction n generalizing p s with
  | zero => rfl
  | succ n ih =>
    cases p with
    | ret a => rfl
    | call op k => exact ⟨rfl, ih (k (H op s).1) (H op s).2⟩

/-- A complete interleaved run: the calls of both parties in order, `true` for the
first party, each with the state it leaves. -/
inductive Interleaved (H : Handler S σ) :
    Program S α → Program S β → σ → List (Bool × S.Op × σ) → α → β → σ → Prop where
  | done (a : α) (b : β) (s : σ) : Interleaved H (ret a) (ret b) s [] a b s
  | first {op : S.Op} {k : S.Reply op → Program S α} {q : Program S β} {s t : σ}
      {tr : List (Bool × S.Op × σ)} {a : α} {b : β} :
      Interleaved H (k (H op s).1) q (H op s).2 tr a b t →
      Interleaved H (call op k) q s ((true, op, (H op s).2) :: tr) a b t
  | second {p : Program S α} {op : S.Op} {k : S.Reply op → Program S β} {s t : σ}
      {tr : List (Bool × S.Op × σ)} {a : α} {b : β} :
      Interleaved H p (k (H op s).1) (H op s).2 tr a b t →
      Interleaved H p (call op k) s ((false, op, (H op s).2) :: tr) a b t

/-- The same trace with the two parties named the other way round. -/
def swapTrace (trace : List (Bool × S.Op × σ)) : List (Bool × S.Op × σ) :=
  trace.map fun entry => (!entry.1, entry.2)

variable {H} in
theorem Interleaved.swap {p : Program S α} {q : Program S β} {s t : σ}
    {tr : List (Bool × S.Op × σ)} {a : α} {b : β} (run : Interleaved H p q s tr a b t) :
    Interleaved H q p s (swapTrace tr) b a t := by
  induction run with
  | done a b s => exact .done b a s
  | first _ ih => exact .second ih
  | second _ ih => exact .first ih

variable {H} in
theorem Interleaved.chain {p : Program S α} {q : Program S β} {s t : σ}
    {tr : List (Bool × S.Op × σ)} {a : α} {b : β} (run : Interleaved H p q s tr a b t) :
    Chain H s (tr.map Prod.snd) t := by
  induction run with
  | done a b s => rfl
  | first _ ih => exact ⟨rfl, ih⟩
  | second _ ih => exact ⟨rfl, ih⟩

/-- Follow a schedule that says which party makes the next call; `none` when the
schedule does not fit. -/
def interleave (H : Handler S σ) :
    List Bool → Program S α → Program S β → σ → Option (List (Bool × S.Op × σ) × α × β × σ)
  | [], ret a, ret b, s => some ([], a, b, s)
  | true :: rest, call op k, q, s =>
    (interleave H rest (k (H op s).1) q (H op s).2).map fun r =>
      ((true, op, (H op s).2) :: r.1, r.2)
  | false :: rest, p, call op k, s =>
    (interleave H rest p (k (H op s).1) (H op s).2).map fun r =>
      ((false, op, (H op s).2) :: r.1, r.2)
  | _, _, _, _ => none

theorem interleaved_of_interleave {sched : List Bool} {p : Program S α} {q : Program S β} {s : σ}
    {tr : List (Bool × S.Op × σ)} {a : α} {b : β} {t : σ}
    (h : interleave H sched p q s = some (tr, a, b, t)) : Interleaved H p q s tr a b t := by
  induction sched generalizing p q s tr with
  | nil =>
    cases p <;> cases q <;> simp [interleave] at h
    obtain ⟨rfl, rfl, rfl, rfl⟩ := h
    exact .done _ _ _
  | cons who rest ih =>
    cases who with
    | true =>
      cases p with
      | ret a => simp [interleave] at h
      | call op k =>
        simp only [interleave, Option.map_eq_some_iff] at h
        obtain ⟨⟨tr', r⟩, hr, he⟩ := h
        cases he
        exact .first (ih hr)
    | false =>
      cases q with
      | ret b => cases p <;> simp [interleave] at h
      | call op k =>
        have h' : (interleave H rest p (k (H op s).1) (H op s).2).map
            (fun r => ((false, op, (H op s).2) :: r.1, r.2)) = some (tr, a, b, t) := by
          cases p <;> exact h
        rw [Option.map_eq_some_iff] at h'
        obtain ⟨⟨tr', r⟩, hr, he⟩ := h'
        cases he
        exact .second (ih hr)

/-- A schedule that fits, and whose result passes a test, gives an interleaved run. -/
theorem exists_interleaved {sched : List Bool} {p : Program S α} {q : Program S β} {s : σ}
    {P : List (Bool × S.Op × σ) × α × β × σ → Prop} [DecidablePred P]
    (h : (interleave H sched p q s).any (fun r => P r) = true) :
    ∃ tr a b t, Interleaved H p q s tr a b t ∧ P (tr, a, b, t) := by
  cases hresult : interleave H sched p q s with
  | none => simp [hresult] at h
  | some r =>
    obtain ⟨tr, a, b, t⟩ := r
    rw [hresult] at h
    exact ⟨tr, a, b, t, interleaved_of_interleave H hresult, by simpa using h⟩

end Program

/-- A monitor follows the calls of one party. `allows` is what the party may do
next, `replies` what the component may answer, `next` what the party knows after. -/
structure Monitor (S : Signature) (κ : Type) where
  allows : κ → S.Op → Prop
  replies : (op : S.Op) → S.Reply op → Prop
  next : κ → (op : S.Op) → S.Reply op → κ

namespace Program

variable {S : Signature} {α β σ κ μ : Type}

/-- Along every path of the program each call is allowed, and the result satisfies `Q`. -/
def Obeys (M : Monitor S κ) (Q : α → κ → Prop) : κ → Program S α → Prop
  | k, ret a => Q a k
  | k, call op f => M.allows k op ∧ ∀ r, M.replies op r → Obeys M Q (M.next k op r) (f r)

variable {M : Monitor S κ} {N : Monitor S μ}

theorem obeys_pure {Q : α → κ → Prop} {k : κ} {a : α} (h : Q a k) :
    Obeys M Q k (pure a : Program S α) := h

theorem Obeys.bind {Q : α → κ → Prop} {R : β → κ → Prop} {k : κ} {p : Program S α}
    {f : α → Program S β} (h : Obeys M Q k p) (hf : ∀ a k', Q a k' → Obeys M R k' (f a)) :
    Obeys M R k (p >>= f) := by
  change Obeys M R k (p.bind f)
  induction p generalizing k with
  | ret a => exact hf a k h
  | call op g ih => exact ⟨h.1, fun r hr => ih r (h.2 r hr)⟩

theorem Obeys.mono {Q R : α → κ → Prop} {k : κ} {p : Program S α} (h : Obeys M Q k p)
    (hQR : ∀ a k', Q a k' → R a k') : Obeys M R k p := by
  induction p generalizing k with
  | ret a => exact hQR a k h
  | call op g ih => exact ⟨h.1, fun r hr => ih r (h.2 r hr)⟩

/-- The first call of a program is allowed and its continuation obeys the monitor. -/
theorem obeys_perform_bind {Q : α → κ → Prop} {k : κ} {op : S.Op} {f : S.Reply op → Program S α}
    (hop : M.allows k op) (hf : ∀ r, M.replies op r → Obeys M Q (M.next k op r) (f r)) :
    Obeys M Q k (perform op >>= f) := ⟨hop, hf⟩

def Stable (M : Monitor S κ) (k : κ) (op : S.Op) : Prop := M.allows k op ∧ ∀ r, M.next k op r = k

theorem obeys_stable {Q : α → κ → Prop} {k : κ} {op : S.Op} {f : S.Reply op → Program S α}
    (h : Stable M k op) (hf : ∀ r, M.replies op r → Obeys M Q k (f r)) :
    Obeys M Q k (perform op >>= f) := by
  refine obeys_perform_bind h.1 ?_
  intro r hr
  rw [h.2 r]
  exact hf r hr

/-- What one allowed call preserves, with the calls made so far in `log`. -/
def StepPreserves (H : Handler S σ) (M : Monitor S κ)
    (Rel : List (S.Op × σ) → σ → κ → Prop) : Prop :=
  ∀ log s k op, Rel log s k → M.allows k op →
    M.replies op (H op s).1 ∧ Rel (log ++ [(op, (H op s).2)]) (H op s).2 (M.next k op (H op s).1)

theorem Obeys.run {H : Handler S σ} {Rel : List (S.Op × σ) → σ → κ → Prop}
    (step : StepPreserves H M Rel) {Q : α → κ → Prop} {k : κ} {p : Program S α}
    (h : Obeys M Q k p) {log : List (S.Op × σ)} {s : σ} (hrel : Rel log s k) :
    ∃ k', Q (p.run H s).1 k' ∧ Rel (log ++ p.steps H s) (p.run H s).2 k' := by
  induction p generalizing k log s with
  | ret a => exact ⟨k, h, by simpa [Program.steps, Program.run] using hrel⟩
  | call op g ih =>
    obtain ⟨hreply, hnext⟩ := step log s k op hrel h.1
    obtain ⟨k', hQ, hend⟩ := ih _ (h.2 _ hreply) hnext
    exact ⟨k', hQ, by simpa [Program.steps, Program.run] using hend⟩

/-- The same for a relation to the calls and the states in which they were made. -/
theorem Obeys.asked {H : Handler S σ} {Rel : List (S.Op × σ) → κ → Prop}
    (step : ∀ log s k op, Rel log k → M.allows k op →
      M.replies op (H op s).1 ∧ Rel (log ++ [(op, s)]) (M.next k op (H op s).1))
    {Q : α → κ → Prop} {k : κ} {p : Program S α} (h : Obeys M Q k p) {log : List (S.Op × σ)} {s : σ}
    (hrel : Rel log k) : ∃ k', Q (p.run H s).1 k' ∧ Rel (log ++ p.asked H s) k' := by
  induction p generalizing k log s with
  | ret a => exact ⟨k, h, by simpa [Program.asked] using hrel⟩
  | call op g ih =>
    obtain ⟨hreply, hnext⟩ := step log s k op hrel h.1
    obtain ⟨k', hQ, hend⟩ := ih _ (h.2 _ hreply) hnext
    exact ⟨k', hQ, by simpa [Program.asked] using hend⟩

theorem Obeys.cut {H : Handler S σ} {Rel : List (S.Op × σ) → σ → κ → Prop}
    (step : StepPreserves H M Rel) {Q : α → κ → Prop} {k : κ} {p : Program S α}
    (h : Obeys M Q k p) {log : List (S.Op × σ)} {s : σ} (hrel : Rel log s k) (n : Nat) :
    ∃ k', Rel (log ++ (p.cut H n s).1) (p.cut H n s).2 k' := by
  induction n generalizing k log s p with
  | zero => exact ⟨k, by simpa [Program.cut] using hrel⟩
  | succ n ih =>
    cases p with
    | ret a => exact ⟨k, by simpa [Program.cut] using hrel⟩
    | call op g =>
      obtain ⟨hreply, hnext⟩ := step log s k op hrel h.1
      obtain ⟨k', hend⟩ := ih (h.2 _ hreply) hnext
      exact ⟨k', by simpa [Program.cut] using hend⟩

/-- Two parties, each under its own monitor. The relation may look at the calls
made so far and at the calls still to come. -/
theorem Interleaved.preserves {H : Handler S σ}
    {Rel : List (Bool × S.Op × σ) → σ → κ → μ → List (Bool × S.Op × σ) → Prop}
    (first : ∀ log s k m op rest, Rel log s k m ((true, op, (H op s).2) :: rest) → M.allows k op →
      M.replies op (H op s).1 ∧
        Rel (log ++ [(true, op, (H op s).2)]) (H op s).2 (M.next k op (H op s).1) m rest)
    (second : ∀ log s k m op rest, Rel log s k m ((false, op, (H op s).2) :: rest) → N.allows m op →
      N.replies op (H op s).1 ∧
        Rel (log ++ [(false, op, (H op s).2)]) (H op s).2 k (N.next m op (H op s).1) rest)
    {Q : α → κ → Prop} {R : β → μ → Prop} {p : Program S α} {q : Program S β} {s t : σ}
    {tr : List (Bool × S.Op × σ)} {a : α} {b : β} (run : Interleaved H p q s tr a b t)
    {k : κ} {m : μ} (hp : Obeys M Q k p) (hq : Obeys N R m q) {log : List (Bool × S.Op × σ)}
    (hrel : Rel log s k m tr) :
    ∃ k' m', Q a k' ∧ R b m' ∧ Rel (log ++ tr) t k' m' [] := by
  induction run generalizing k m log with
  | done a b s => exact ⟨k, m, hp, hq, by simpa using hrel⟩
  | first _ ih =>
    obtain ⟨hreply, hnext⟩ := first log _ k m _ _ hrel hp.1
    obtain ⟨k', m', hk, hm, hend⟩ := ih (hp.2 _ hreply) hq hnext
    exact ⟨k', m', hk, hm, by simpa using hend⟩
  | second _ ih =>
    obtain ⟨hreply, hnext⟩ := second log _ k m _ _ hrel hq.1
    obtain ⟨k', m', hk, hm, hend⟩ := ih hp (hq.2 _ hreply) hnext
    exact ⟨k', m', hk, hm, by simpa using hend⟩

end Program

end TaskOrchestrator.Library
