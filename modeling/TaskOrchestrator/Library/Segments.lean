import TaskOrchestrator.Library.Ledger
import TaskOrchestrator.Library.Pools

/-!
# Numbers without gaps

Parties that number their rows from a copy of the header may use a number twice when they run at the
same time. They leave no number out: whatever the interleaving, the numbers of a table are those
from one up to some number, and no counter is ahead of them.
-/

namespace TaskOrchestrator.Library

set_option autoImplicit false

variable {ι : Type}

/-- The counters that a party holds, if any, are not negative and not above `top`. -/
def Copy.Within (top : ι → Int) : Copy ι → Prop
  | .unread => True
  | .held c _ => ∀ i, 0 ≤ c i ∧ c i ≤ top i

theorem Copy.Within.mono {top top' : ι → Int} {k : Copy ι} (h : k.Within top)
    (hle : ∀ i, top i ≤ top' i) :
    k.Within top' := by
  cases k with
  | unread => trivial
  | held c stored => exact fun i => ⟨(h i).1, Int.le_trans (h i).2 (hle i)⟩

namespace LedgerView

variable {S : Signature} {σ : Type} {H : Handler S σ} (V : LedgerView S σ ι H) [DecidableEq ι]

/-- The numbers appended so far are those from one up to `top`, and the header is not above them. -/
structure Segments (ops : List S.Op) (header top : ι → Int) : Prop where
  mem_iff : ∀ i n, n ∈ V.numbers i ops ↔ 1 ≤ n ∧ n ≤ top i
  header_nonneg : ∀ i, 0 ≤ header i
  header_le : ∀ i, header i ≤ top i

variable {V} {ops : List S.Op} {header top : ι → Int} {op : S.Op}

theorem Segments.nil : V.Segments [] (fun _ => 0) fun _ => 0 where
  mem_iff i n := by
    constructor
    · intro h
      exact absurd h List.not_mem_nil
    · rintro ⟨hpos, hzero⟩
      omega
  header_nonneg i := Int.le_refl 0
  header_le i := Int.le_refl 0

/-- A number that is at most one above the top extends the segment or is used again. -/
theorem Segments.append (h : V.Segments ops header top) {i : ι} {n : Int}
    (hact : V.act op = .append i n) (hpos : 1 ≤ n) (hle : n ≤ top i + 1) :
    V.Segments (ops ++ [op]) header (Function.update top i (max (top i) n)) where
  mem_iff j m := by
    rw [numbers_snoc]
    by_cases hj : j = i
    · subst hj
      rw [Function.update_self]
      simp only [appended, hact, if_true, Option.toList_some, List.mem_append, List.mem_singleton,
        h.mem_iff]
      omega
    · rw [Function.update_of_ne hj]
      simp only [appended, hact, if_neg (Ne.symm hj), Option.toList_none, List.append_nil,
        h.mem_iff]
  header_nonneg := h.header_nonneg
  header_le j := by
    have hj := h.header_le j
    by_cases hji : j = i
    · subst hji
      rw [Function.update_self]
      omega
    · rw [Function.update_of_ne hji]
      exact hj

theorem Segments.other (h : V.Segments ops header top) (hact : ∀ i n, V.act op ≠ .append i n) :
    V.Segments (ops ++ [op]) header top where
  mem_iff i n := by
    rw [numbers_snoc_of_not_append _ _ _ _ hact]
    exact h.mem_iff i n
  header_nonneg := h.header_nonneg
  header_le := h.header_le

theorem Segments.store (h : V.Segments ops header top) {c : ι → Int}
    (hc : ∀ i, 0 ≤ c i ∧ c i ≤ top i) :
    V.Segments ops c top :=
  ⟨h.mem_iff, fun i => (hc i).1, fun i => (hc i).2⟩

theorem Segments.step {s : σ} {k : Copy ι} (h : V.Segments ops (V.counters s) top)
    (hk : k.Within top) (hallows : k.Allows (V.act op)) :
    ∃ top' : ι → Int, (∀ i, top i ≤ top' i) ∧
    V.Segments (ops ++ [op]) (V.counters (H op s).2) top' ∧
      (k.next (V.act op) (V.seen op (H op s).1)).Within top' := by
  cases hact : V.act op with
  | read =>
    have hsame := V.counters_other op s (by simp [hact])
    have hseen := V.seen_read op s hact
    refine ⟨top, fun i => Int.le_refl (top i), ?_, ?_⟩
    · rw [hsame]
      exact h.other (by simp [hact])
    · rw [hseen]
      exact fun i => ⟨h.header_nonneg i, h.header_le i⟩
  | append i n =>
    rw [hact] at hallows
    cases k with
    | unread => exact absurd hallows not_false
    | held c stored =>
      obtain rfl : n = c i + 1 := hallows
      obtain ⟨hnonneg, hle⟩ := hk i
      have hgrows : ∀ j, top j ≤ Function.update top i (max (top i) (c i + 1)) j := by
        intro j
        by_cases hj : j = i
        · subst hj
          rw [Function.update_self]
          omega
        · rw [Function.update_of_ne hj]
      refine ⟨_, hgrows, ?_, ?_⟩
      · rw [V.counters_other op s (by simp [hact])]
        exact h.append hact (by omega) (by omega)
      · intro j
        by_cases hj : j = i
        · subst hj
          rw [Function.update_self, Function.update_self]
          omega
        · rw [Function.update_of_ne hj, Function.update_of_ne hj]
          exact hk j
  | store c =>
    rw [hact] at hallows
    cases k with
    | unread => exact absurd hallows not_false
    | held c' stored =>
      obtain rfl : c = c' := hallows
      refine ⟨top, fun i => Int.le_refl (top i), ?_, hk⟩
      rw [V.counters_store op s c hact]
      exact (h.store hk).other (by simp [hact])
  | skip =>
    refine ⟨top, fun i => Int.le_refl (top i), ?_, ?_⟩
    · rw [V.counters_other op s (by simp [hact])]
      exact h.other (by simp [hact])
    · cases k <;> exact hk

theorem pool_segments {κ α : Type} [DecidableEq κ] {ps qs : κ → Program S α} {s t : σ}
    {tr : List (κ × S.Op × σ)} (run : Program.Pool H ps s tr qs t) {Q : α → Copy ι → Prop}
    (hobeys : ∀ j, ∃ k : Copy ι, k.Within (fun _ => 0) ∧ (ps j).Obeys V.monitor Q k)
    {log : List (S.Op × σ)} (h : V.Segments (log.map Prod.fst) (V.counters s) top) :
    ∃ top', V.Segments ((log ++ tr.map Prod.snd).map Prod.fst) (V.counters t) top' := by
  choose k hwithin hk using hobeys
  have hzero : ∀ i, (0 : Int) ≤ top i := fun i => Int.le_trans (h.header_nonneg i) (h.header_le i)
  obtain ⟨k', ⟨top', hend, -⟩, -⟩ := run.preserves
    (fun log u k => ∃ top, V.Segments (log.map Prod.fst) (V.counters u) top ∧ ∀ j, (k j).Within top)
    (fun log u k j op ⟨top, hlog, hall⟩ hallows => by
      refine ⟨V.replies_handle op u, ?_⟩
      obtain ⟨top', hle, hlog', hown⟩ := hlog.step (hall j) hallows
      refine ⟨top', by simpa using hlog', fun m => ?_⟩
      by_cases hm : m = j
      · subst hm
        rw [Function.update_self]
        exact hown
      · rw [Function.update_of_ne hm]
        exact (hall m).mono hle)
    hk log ⟨top, h, fun j => (hwithin j).mono hzero⟩
  exact ⟨top', hend⟩

end LedgerView

end TaskOrchestrator.Library
