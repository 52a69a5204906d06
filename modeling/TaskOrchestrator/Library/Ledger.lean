import TaskOrchestrator.Library.Program
import Mathlib.Logic.Function.Basic
import Mathlib.Data.Int.Order.Basic

/-!
# Numbered histories behind stored counters

A ledger has several append tables and a header with one counter per table. The
component numbers nothing by itself: a party reads the header, appends rows under
the next numbers of its own copy of the counters, and stores the copy back. The
monitor below is that discipline for one party. Under it the numbers of each table
only grow: in a run of one party, in a run that is cut while no appended row waits
for its counter, and in an interleaving whose parties never write on a header that
the other one has written since they read it.
-/

namespace TaskOrchestrator.Library

set_option autoImplicit false

inductive LedgerAct (ι : Type) where
  | read
  | append (table : ι) (number : Int)
  | store (counters : ι → Int)
  | skip

def LedgerAct.reads {ι : Type} : LedgerAct ι → Bool
  | .read => true
  | _ => false

def LedgerAct.writes {ι : Type} : LedgerAct ι → Bool
  | .append _ _ => true
  | .store _ => true
  | _ => false

/-- How a ledger shows in a component: what each call does to it, what a read reports,
and the counters in the header of a state. -/
structure LedgerView (S : Signature) (σ ι : Type) (H : Handler S σ) where
  act : S.Op → LedgerAct ι
  replies : (op : S.Op) → S.Reply op → Prop
  seen : (op : S.Op) → S.Reply op → ι → Int
  counters : σ → ι → Int
  replies_handle : ∀ op s, replies op (H op s).1
  seen_read : ∀ op s, act op = .read → seen op (H op s).1 = counters s
  counters_store : ∀ op s c, act op = .store c → counters (H op s).2 = c
  counters_other : ∀ op s, (∀ c, act op ≠ .store c) → counters (H op s).2 = counters s

/-- What one party knows: nothing, or the counters with its own appended rows counted
in, and whether the header holds them. -/
inductive Copy (ι : Type) where
  | unread
  | held (counters : ι → Int) (stored : Bool)

namespace Copy

variable {ι : Type}

/-- No appended row waits for its counter. -/
def Settled : Copy ι → Prop
  | unread => True
  | held _ stored => stored = true

/-- The counters the next numbers are drawn from. -/
def bound : Copy ι → (ι → Int) → ι → Int
  | unread, header => header
  | held c _, _ => c

def Allows : Copy ι → LedgerAct ι → Prop
  | k, .read => k.Settled
  | held c _, .append i n => n = c i + 1
  | held c _, .store c' => c' = c
  | unread, .append _ _ => False
  | unread, .store _ => False
  | _, .skip => True

variable [DecidableEq ι]

def next : Copy ι → LedgerAct ι → (ι → Int) → Copy ι
  | _, .read, seen => held seen true
  | held c _, .append i n, _ => held (Function.update c i n) false
  | unread, .append _ _, _ => unread
  | _, .store c, _ => held c true
  | k, .skip, _ => k

end Copy

namespace LedgerView

variable {S : Signature} {σ ι : Type} {H : Handler S σ} (V : LedgerView S σ ι H)

/-- Whether an appended row waits for its counter after the calls. -/
def pending (ops : List S.Op) : Bool :=
  ops.foldl (fun waiting op =>
    match V.act op with
    | .append _ _ => true
    | .store _ => false
    | _ => waiting) false

theorem pending_snoc (ops : List S.Op) (op : S.Op) :
    V.pending (ops ++ [op]) = match V.act op with
      | .append _ _ => true
      | .store _ => false
      | _ => V.pending ops := by
  simp only [pending, List.foldl_append, List.foldl_cons, List.foldl_nil]

variable [DecidableEq ι]

def monitor : Monitor S (Copy ι) where
  allows k op := k.Allows (V.act op)
  replies := V.replies
  next k op r := k.next (V.act op) (V.seen op r)

def appended (i : ι) (op : S.Op) : Option Int :=
  match V.act op with
  | .append j n => if j = i then some n else none
  | _ => none

def numbers (i : ι) (ops : List S.Op) : List Int := ops.filterMap (V.appended i)

theorem numbers_append (i : ι) (xs ys : List S.Op) :
    V.numbers i (xs ++ ys) = V.numbers i xs ++ V.numbers i ys := List.filterMap_append

theorem numbers_snoc (i : ι) (xs : List S.Op) (op : S.Op) :
    V.numbers i (xs ++ [op]) = V.numbers i xs ++ (V.appended i op).toList := by
  rw [numbers_append]
  congr 1

theorem numbers_snoc_of_not_append (i : ι) (xs : List S.Op) (op : S.Op)
    (h : ∀ j n, V.act op ≠ .append j n) : V.numbers i (xs ++ [op]) = V.numbers i xs := by
  rw [numbers_snoc]
  have hnone : V.appended i op = none := by
    unfold appended
    split
    · rename_i j n hact
      exact absurd hact (h j n)
    · rfl
  simp [hnone]

/-- The numbers appended so far grow from above `floor` to `top`. -/
structure Grown (floor : ι → Int) (ops : List S.Op) (top : ι → Int) : Prop where
  increasing : ∀ i, (V.numbers i ops).Pairwise (· < ·)
  above : ∀ i, ∀ n ∈ V.numbers i ops, floor i < n
  below : ∀ i, ∀ n ∈ V.numbers i ops, n ≤ top i
  floor_le : ∀ i, floor i ≤ top i
  attained : ∀ i, top i = floor i ∨ top i ∈ V.numbers i ops

variable {V}

theorem Grown.nil (floor : ι → Int) : V.Grown floor [] floor :=
  ⟨fun _ => List.Pairwise.nil, fun _ _ hn => absurd hn List.not_mem_nil,
    fun _ _ hn => absurd hn List.not_mem_nil, fun i => Int.le_refl (floor i), fun _ => Or.inl rfl⟩

theorem Grown.snoc_other {floor top : ι → Int} {ops : List S.Op} (h : V.Grown floor ops top)
    {op : S.Op} (hop : ∀ j n, V.act op ≠ .append j n) : V.Grown floor (ops ++ [op]) top := by
  have hsame := fun i => V.numbers_snoc_of_not_append i ops op hop
  exact ⟨fun i => (hsame i) ▸ h.increasing i, fun i => (hsame i) ▸ h.above i,
    fun i => (hsame i) ▸ h.below i, h.floor_le, fun i => (hsame i) ▸ h.attained i⟩

theorem Grown.snoc_append {floor top : ι → Int} {ops : List S.Op} (h : V.Grown floor ops top)
    {op : S.Op} {i : ι} (hop : V.act op = .append i (top i + 1)) :
    V.Grown floor (ops ++ [op]) (Function.update top i (top i + 1)) := by
  have hi : V.numbers i (ops ++ [op]) = V.numbers i ops ++ [top i + 1] := by
    rw [numbers_snoc]
    simp [appended, hop]
  have hj : ∀ j, j ≠ i → V.numbers j (ops ++ [op]) = V.numbers j ops := by
    intro j hne
    rw [numbers_snoc]
    simp [appended, hop, Ne.symm hne]
  have hfloor := h.floor_le i
  refine ⟨fun j => ?_, fun j n hn => ?_, fun j n hn => ?_, fun j => ?_, fun j => ?_⟩
  · by_cases hji : j = i
    · subst hji
      rw [hi, List.pairwise_append]
      refine ⟨h.increasing j, List.pairwise_singleton _ _, ?_⟩
      intro a ha b hb
      have hb' : b = top j + 1 := List.mem_singleton.mp hb
      have := h.below j a ha
      omega
    · rw [hj j hji]
      exact h.increasing j
  · by_cases hji : j = i
    · subst hji
      rw [hi] at hn
      rcases List.mem_append.mp hn with hn | hn
      · exact h.above j n hn
      · have hn' : n = top j + 1 := List.mem_singleton.mp hn
        omega
    · rw [hj j hji] at hn
      exact h.above j n hn
  · by_cases hji : j = i
    · subst hji
      rw [hi] at hn
      rw [Function.update_self]
      rcases List.mem_append.mp hn with hn | hn
      · have := h.below j n hn
        omega
      · have hn' : n = top j + 1 := List.mem_singleton.mp hn
        omega
    · rw [hj j hji] at hn
      rw [Function.update_of_ne hji]
      exact h.below j n hn
  · by_cases hji : j = i
    · subst hji
      rw [Function.update_self]
      omega
    · rw [Function.update_of_ne hji]
      exact h.floor_le j
  · by_cases hji : j = i
    · subst hji
      rw [Function.update_self, hi]
      exact Or.inr (List.mem_append_right _ (List.mem_singleton.mpr rfl))
    · rw [Function.update_of_ne hji, hj j hji]
      exact h.attained j

/-- The numbers so far are covered by the party's copy, and a settled copy is the header. -/
def Follows (V : LedgerView S σ ι H) (floor : ι → Int) (log : List (S.Op × σ)) (s : σ)
    (k : Copy ι) :
    Prop :=
  V.Grown floor (log.map Prod.fst) (k.bound (V.counters s)) ∧
    (k.Settled → k.bound (V.counters s) = V.counters s)

theorem follows_step (V : LedgerView S σ ι H) (floor : ι → Int) :
    Program.StepPreserves H V.monitor (V.Follows floor) := by
  intro log s k op ⟨hgrown, hsettled⟩ hallows
  refine ⟨V.replies_handle op s, ?_⟩
  change k.Allows (V.act op) at hallows
  unfold Follows
  simp only [List.map_append, List.map_cons, List.map_nil, monitor]
  cases hact : V.act op with
  | read =>
    rw [hact] at hallows
    have hseen := V.seen_read op s hact
    have hsame := V.counters_other op s (by simp [hact])
    have htop := hsettled hallows
    rw [htop] at hgrown
    have hnext := hgrown.snoc_other (show ∀ j n, V.act op ≠ .append j n by simp [hact])
    exact ⟨by simpa [Copy.next, Copy.bound, hseen] using hnext,
      fun _ => by simp [Copy.next, Copy.bound, hseen, hsame]⟩
  | append i n =>
    rw [hact] at hallows
    cases k with
    | unread => exact absurd hallows not_false
    | held c stored =>
      have hn : n = c i + 1 := hallows
      subst hn
      exact ⟨hgrown.snoc_append hact, fun h => absurd h Bool.false_ne_true⟩
  | store c =>
    rw [hact] at hallows
    have hstored := V.counters_store op s c hact
    cases k with
    | unread => exact absurd hallows not_false
    | held c' stored =>
      have hc : c = c' := hallows
      subst hc
      exact ⟨hgrown.snoc_other (by simp [hact]), fun _ => by simp [Copy.next, Copy.bound, hstored]⟩
  | skip =>
    have hsame := V.counters_other op s (by simp [hact])
    rw [hsame]
    exact ⟨hgrown.snoc_other (by simp [hact]), hsettled⟩

theorem run_grown {α : Type} {p : Program S α} {k : Copy ι} {floor : ι → Int}
    {log : List (S.Op × σ)} {s : σ} (hp : p.Obeys V.monitor (fun _ k => k.Settled) k)
    (hbound : k.bound (V.counters s) = V.counters s)
    (hlog : V.Grown floor (log.map Prod.fst) (V.counters s)) :
    V.Grown floor ((log ++ p.steps H s).map Prod.fst) (V.counters (p.run H s).2) := by
  have hstart : V.Follows floor log s k := ⟨by rwa [hbound], fun _ => hbound⟩
  obtain ⟨k', hsettled, hgrown, htop⟩ := Program.Obeys.run (V.follows_step floor) hp hstart
  rwa [htop hsettled] at hgrown

theorem settled_step (V : LedgerView S σ ι H) :
    Program.StepPreserves H V.monitor fun log _ k => V.pending (log.map Prod.fst) = false →
    k.Settled := by
  intro log s k op hsettled hallows
  refine ⟨V.replies_handle op s, ?_⟩
  change k.Allows (V.act op) at hallows
  simp only [List.map_append, List.map_cons, List.map_nil, monitor, pending_snoc]
  cases hact : V.act op with
  | read => exact fun _ => rfl
  | append i n => exact fun h => absurd h (by simp)
  | store c =>
    intro _
    cases k <;> rfl
  | skip => exact hsettled

/-- A run that is cut while no appended row waits for its counter. -/
theorem cut_grown {α : Type} {p : Program S α} {k : Copy ι} {floor : ι → Int}
    {log : List (S.Op × σ)} {s : σ} (hp : p.Obeys V.monitor (fun _ k => k.Settled) k)
    (hk : k.Settled) (hbound : k.bound (V.counters s) = V.counters s)
    (hlog : V.Grown floor (log.map Prod.fst) (V.counters s)) (n : Nat)
    (hpending : V.pending ((p.cut H n s).1.map Prod.fst) = false) :
    V.Grown floor ((log ++ (p.cut H n s).1).map Prod.fst) (V.counters (p.cut H n s).2) := by
  have hstep : Program.StepPreserves H V.monitor fun log' s k =>
      V.Follows floor (log ++ log') s k ∧ (V.pending (log'.map Prod.fst) = false → k.Settled) := by
    intro log' s k op ⟨hfollows, hsettled⟩ hallows
    obtain ⟨hreply, hfollows'⟩ := V.follows_step floor (log ++ log') s k op hfollows hallows
    obtain ⟨-, hsettled'⟩ := V.settled_step log' s k op hsettled hallows
    rw [List.append_assoc] at hfollows'
    exact ⟨hreply, hfollows', hsettled'⟩
  have hstart : V.Follows floor (log ++ []) s k := by
    rw [List.append_nil]
    exact ⟨by rwa [hbound], fun _ => hbound⟩
  have hrel : V.Follows floor (log ++ []) s k ∧
      (V.pending (([] : List (S.Op × σ)).map Prod.fst) = false → k.Settled) := ⟨hstart, fun _ => hk⟩
  obtain ⟨k', hfollows, hsettled⟩ := Program.Obeys.cut hstep hp hrel n
  obtain ⟨hgrown, htop⟩ := hfollows
  rw [List.nil_append] at hgrown hsettled
  rwa [htop (hsettled hpending)] at hgrown

/-- Every write of a party is on a header that the party has read since the other party's
last write. The flags say for the first and the second party whether that is so now. -/
def IsolatedFrom (V : LedgerView S σ ι H) : Bool → Bool → List (Bool × S.Op × σ) → Prop
  | _, _, [] => True
  | fresh₁, fresh₂, (true, op, _) :: rest =>
    ((V.act op).writes = true → fresh₁ = true) ∧
      V.IsolatedFrom (fresh₁ || (V.act op).reads) (fresh₂ && !(V.act op).writes) rest
  | fresh₁, fresh₂, (false, op, _) :: rest =>
    ((V.act op).writes = true → fresh₂ = true) ∧
      V.IsolatedFrom (fresh₁ && !(V.act op).writes) (fresh₂ || (V.act op).reads) rest

instance decidableIsolatedFrom (V : LedgerView S σ ι H) :
    (fresh₁ fresh₂ : Bool) → (trace : List (Bool × S.Op × σ)) →
      Decidable (V.IsolatedFrom fresh₁ fresh₂ trace)
  | _, _, [] => .isTrue trivial
  | fresh₁, fresh₂, (true, op, _) :: rest =>
    have := V.decidableIsolatedFrom (fresh₁ || (V.act op).reads) (fresh₂ && !(V.act op).writes) rest
    inferInstanceAs (Decidable (_ ∧ _))
  | fresh₁, fresh₂, (false, op, _) :: rest =>
    have := V.decidableIsolatedFrom (fresh₁ && !(V.act op).writes) (fresh₂ || (V.act op).reads) rest
    inferInstanceAs (Decidable (_ ∧ _))

def Isolated (V : LedgerView S σ ι H) (trace : List (Bool × S.Op × σ)) : Prop :=
  V.IsolatedFrom false false trace

omit [DecidableEq ι] in
theorem isolatedFrom_swap (V : LedgerView S σ ι H) {fresh₁ fresh₂ : Bool}
    {trace : List (Bool × S.Op × σ)} (h : V.IsolatedFrom fresh₁ fresh₂ trace) :
    V.IsolatedFrom fresh₂ fresh₁ (Program.swapTrace trace) := by
  induction trace generalizing fresh₁ fresh₂ with
  | nil => trivial
  | cons entry rest ih =>
    obtain ⟨party, op, s⟩ := entry
    cases party with
    | true => exact ⟨h.1, ih h.2⟩
    | false => exact ⟨h.1, ih h.2⟩

/-- What holds between two parties with the given copies and flags. Either both copies are
settled and the header counts every row; or one party has rows that only its own copy
counts; or a party has such rows on a header it no longer knows, and can never finish. -/
inductive Joint (V : LedgerView S σ ι H) (floor : ι → Int) (ops : List S.Op) (header : ι → Int) :
    Copy ι → Bool → Copy ι → Bool → Prop where
  | settled {k m : Copy ι} {fresh₁ fresh₂ : Bool} (hk : k.Settled) (hm : m.Settled)
      (hgrown : V.Grown floor ops header) (hfresh₁ : fresh₁ = true → k.bound header = header)
      (hfresh₂ : fresh₂ = true → m.bound header = header) :
        Joint V floor ops header k fresh₁ m fresh₂
  | first {c : ι → Int} {m : Copy ι} {fresh₂ : Bool} (hm : m.Settled)
    (hgrown : V.Grown floor ops c) :
      Joint V floor ops header (.held c false) true m fresh₂
  | second {k : Copy ι} {fresh₁ : Bool} {c : ι → Int} (hk : k.Settled)
    (hgrown : V.Grown floor ops c) :
      Joint V floor ops header k fresh₁ (.held c false) true
  | firstStuck {k m : Copy ι} {fresh₂ : Bool} (hk : ¬ k.Settled) :
      Joint V floor ops header k false m fresh₂
  | secondStuck {k m : Copy ι} {fresh₁ : Bool} (hm : ¬ m.Settled) :
      Joint V floor ops header k fresh₁ m false

theorem Joint.swap {floor header : ι → Int} {ops : List S.Op} {k m : Copy ι} {fresh₁ fresh₂ : Bool}
    (h : V.Joint floor ops header k fresh₁ m fresh₂) :
    V.Joint floor ops header m fresh₂ k fresh₁ := by
  cases h with
  | settled hk hm hgrown hfresh₁ hfresh₂ => exact .settled hm hk hgrown hfresh₂ hfresh₁
  | first hm hgrown => exact .second hm hgrown
  | second hk hgrown => exact .first hk hgrown
  | firstStuck hk => exact .secondStuck hk
  | secondStuck hm => exact .firstStuck hm

theorem Joint.read {floor header : ι → Int} {ops : List S.Op} {k m : Copy ι} {fresh₁ fresh₂ : Bool}
    (h : V.Joint floor ops header k fresh₁ m fresh₂) {op : S.Op} (hact : V.act op = .read)
    (hk : k.Settled) : V.Joint floor (ops ++ [op]) header (.held header true) true m fresh₂ := by
  have hother : ∀ j n, V.act op ≠ .append j n := by simp [hact]
  cases h with
  | settled _ hm hgrown _ hfresh₂ =>
    exact .settled rfl hm (hgrown.snoc_other hother) (fun _ => rfl) hfresh₂
  | first hm hgrown => exact absurd hk Bool.false_ne_true
  | second _ hgrown => exact .second rfl (hgrown.snoc_other hother)
  | firstStuck hk' => exact absurd hk hk'
  | secondStuck hm => exact .secondStuck hm

theorem Joint.append {floor header c : ι → Int} {ops : List S.Op} {m : Copy ι}
    {stored fresh₂ : Bool} (h : V.Joint floor ops header (.held c stored) true m fresh₂)
    {op : S.Op} {i : ι} (hact : V.act op = .append i (c i + 1)) :
    V.Joint floor (ops ++ [op]) header
    (.held (Function.update c i (c i + 1)) false) true m false := by
  cases h with
  | settled hk hm hgrown hfresh₁ _ =>
    have hc : c = header := hfresh₁ rfl
    subst hc
    exact .first hm (hgrown.snoc_append hact)
  | first hm hgrown => exact .first hm (hgrown.snoc_append hact)
  | second _ _ => exact .secondStuck Bool.false_ne_true
  | secondStuck hm => exact .secondStuck hm

theorem Joint.store {floor header c : ι → Int} {ops : List S.Op} {m : Copy ι} {stored fresh₂ : Bool}
    (h : V.Joint floor ops header (.held c stored) true m fresh₂) {op : S.Op}
    (hact : V.act op = .store c) : V.Joint floor (ops ++ [op]) c (.held c true) true m false := by
  have hother : ∀ j n, V.act op ≠ .append j n := by simp [hact]
  cases h with
  | settled hk hm hgrown hfresh₁ _ =>
    have hc : c = header := hfresh₁ rfl
    subst hc
    exact .settled rfl hm (hgrown.snoc_other hother) (fun _ => rfl)
      (fun h => absurd h Bool.false_ne_true)
  | first hm hgrown =>
    exact .settled rfl hm (hgrown.snoc_other hother) (fun _ => rfl)
      (fun h => absurd h Bool.false_ne_true)
  | second _ _ => exact .secondStuck Bool.false_ne_true
  | secondStuck hm => exact .secondStuck hm

theorem Joint.skip {floor header : ι → Int} {ops : List S.Op} {k m : Copy ι} {fresh₁ fresh₂ : Bool}
    (h : V.Joint floor ops header k fresh₁ m fresh₂) {op : S.Op} (hact : V.act op = .skip) :
    V.Joint floor (ops ++ [op]) header k fresh₁ m fresh₂ := by
  have hother : ∀ j n, V.act op ≠ .append j n := by simp [hact]
  cases h with
  | settled hk hm hgrown hfresh₁ hfresh₂ =>
    exact .settled hk hm (hgrown.snoc_other hother) hfresh₁ hfresh₂
  | first hm hgrown => exact .first hm (hgrown.snoc_other hother)
  | second hk hgrown => exact .second hk (hgrown.snoc_other hother)
  | firstStuck hk => exact .firstStuck hk
  | secondStuck hm => exact .secondStuck hm

theorem Joint.step {floor : ι → Int} {ops : List S.Op} {s : σ} {k m : Copy ι} {fresh₁ fresh₂ : Bool}
    (h : V.Joint floor ops (V.counters s) k fresh₁ m fresh₂) {op : S.Op}
    (hallows : k.Allows (V.act op)) (hfresh : (V.act op).writes = true → fresh₁ = true) :
    V.Joint floor (ops ++ [op]) (V.counters (H op s).2) (k.next (V.act op) (V.seen op (H op s).1))
      (fresh₁ || (V.act op).reads) m (fresh₂ && !(V.act op).writes) := by
  cases hact : V.act op with
  | read =>
    rw [hact] at hallows
    have hnext := h.read hact hallows
    rw [V.counters_other op s (by simp [hact]), V.seen_read op s hact]
    simpa [Copy.next, LedgerAct.reads, LedgerAct.writes] using hnext
  | append i n =>
    rw [hact] at hallows hfresh
    obtain rfl := hfresh rfl
    rw [V.counters_other op s (by simp [hact])]
    cases k with
    | unread => exact absurd hallows not_false
    | held c stored =>
      have hn : n = c i + 1 := hallows
      subst hn
      simpa [Copy.next, LedgerAct.reads, LedgerAct.writes] using h.append hact
  | store c =>
    rw [hact] at hallows hfresh
    obtain rfl := hfresh rfl
    rw [V.counters_store op s c hact]
    cases k with
    | unread => exact absurd hallows not_false
    | held c' stored =>
      have hc : c = c' := hallows
      subst hc
      simpa [Copy.next, LedgerAct.reads, LedgerAct.writes] using h.store hact
  | skip =>
    rw [V.counters_other op s (by simp [hact])]
    simpa [Copy.next, LedgerAct.reads, LedgerAct.writes] using h.skip hact

theorem interleaved_grown {α β : Type} {p : Program S α} {q : Program S β} {s t : σ} {a : α} {b : β}
    {trace : List (Bool × S.Op × σ)} (run : Program.Interleaved H p q s trace a b t)
    (hp : p.Obeys V.monitor (fun _ k => k.Settled) .unread)
    (hq : q.Obeys V.monitor (fun _ k => k.Settled) .unread) (hisolated : V.Isolated trace) :
    V.Grown (V.counters s) (trace.map fun e => e.2.1) (V.counters t) := by
  let Rel :=
    fun (log : List (Bool × S.Op × σ)) (u : σ) (k m : Copy ι) (rest : List (Bool × S.Op × σ)) =>
    ∃ fresh₁ fresh₂, V.IsolatedFrom fresh₁ fresh₂ rest ∧
      V.Joint (V.counters s) (log.map fun e => e.2.1) (V.counters u) k fresh₁ m fresh₂
  have hstart : Rel [] s .unread .unread trace :=
    ⟨false, false, hisolated, .settled trivial trivial (.nil _) (fun _ => rfl) (fun _ => rfl)⟩
  obtain ⟨k, m, hk, hm, fresh₁, fresh₂, -, hjoint⟩ := Program.Interleaved.preserves
    (fun log u k m op rest ⟨fresh₁, fresh₂, hisolated, hjoint⟩ hallows => by
      refine ⟨V.replies_handle op u, _, _, hisolated.2, ?_⟩
      simpa [monitor] using hjoint.step hallows hisolated.1)
    (fun log u k m op rest ⟨fresh₁, fresh₂, hisolated, hjoint⟩ hallows => by
      refine ⟨V.replies_handle op u, _, _, hisolated.2, ?_⟩
      simpa [monitor] using (hjoint.swap.step hallows hisolated.1).swap)
    run hp hq (show Rel [] s .unread .unread trace from hstart)
  cases hjoint with
  | settled _ _ hgrown _ _ => exact hgrown
  | first _ _ => exact absurd hk Bool.false_ne_true
  | second _ _ => exact absurd hm Bool.false_ne_true
  | firstStuck hk' => exact absurd hk hk'
  | secondStuck hm' => exact absurd hm hm'

end LedgerView

end TaskOrchestrator.Library
