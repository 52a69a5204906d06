import Mathlib.Algebra.BigOperators.Ring.Finset
import Mathlib.Algebra.Order.BigOperators.Group.Finset
import Mathlib.Algebra.Order.Group.Int
import Mathlib.Combinatorics.Pigeonhole
import Mathlib.Data.Finset.Max
import Mathlib.Data.Int.ConditionallyCompleteOrder
import Mathlib.Order.WithBot

/-!
# Jobs in sequence

Machines that work on one job at a time, each from an instant on. What such a machine has finished
by a bound takes no longer than the time up to the bound, so a job that is due waits at most for the
jobs that are due before it, and machines that finish by a bound share the time of all jobs. When
the shortest job always goes to the machine that is free first, the total of the completion times is
the least that any timetable of the jobs has.
-/

namespace TaskOrchestrator.Library

set_option autoImplicit false

/-- On which machine, from when and how long jobs are worked on. -/
structure Timetable (ι μ : Type) where
  machine : ι → μ
  start : ι → Int
  duration : ι → Int

namespace Timetable

variable {ι μ : Type} (t : Timetable ι μ)

def stop (i : ι) : Int := t.start i + t.duration i

structure Serial (opens : μ → Int) (jobs : Finset ι) : Prop where
  positive : ∀ i ∈ jobs, 0 < t.duration i
  after : ∀ i ∈ jobs, opens (t.machine i) ≤ t.start i
  apart : ∀ i ∈ jobs, ∀ j ∈ jobs, i ≠ j → t.machine i = t.machine j → t.stop i ≤ t.start j ∨
    t.stop j ≤ t.start i

variable {t} {opens : μ → Int} {jobs : Finset ι}

/-- What a machine has finished by the bound takes no longer than the time up to it. -/
theorem Serial.work_le (h : t.Serial opens jobs) {m : μ} {part : Finset ι} {bound : Int}
    (hopens : opens m ≤ bound) (hpart : ∀ i ∈ part, i ∈ jobs ∧ t.machine i = m ∧ t.stop i ≤ bound) :
    opens m + ∑ i ∈ part, t.duration i ≤ bound := by
  classical
  induction part using Finset.induction_on_max_value t.start generalizing bound with
  | empty => simpa using hopens
  | insert last rest hnew hlast ih =>
    obtain ⟨hlastJob, hlastMachine, hlastStop⟩ := hpart last (Finset.mem_insert_self last rest)
    have hlastPositive := h.positive last hlastJob
    have hopensLast : opens m ≤ t.start last := hlastMachine ▸ h.after last hlastJob
    -- The other jobs are finished when the last one starts.
    have hrest : ∀ i ∈ rest, i ∈ jobs ∧ t.machine i = m ∧ t.stop i ≤ t.start last := by
      intro i hi
      obtain ⟨hjob, hmachine, -⟩ := hpart i (Finset.mem_insert_of_mem hi)
      have hne : i ≠ last := fun heq => hnew (heq ▸ hi)
      refine ⟨hjob, hmachine, ?_⟩
      rcases h.apart i hjob last hlastJob hne (hmachine.trans hlastMachine.symm) with hbefore
        | hafter
      · exact hbefore
      · have hstart := hlast i hi
        unfold stop at hafter
        omega
    have hsum := ih hopensLast hrest
    rw [Finset.sum_insert hnew]
    unfold stop at hlastStop
    omega

/-- Jobs of the machine that are due no later than a job leave it enough time, if any timetable
meets the due dates. -/
theorem Serial.due_met (h : t.Serial opens jobs) {due : ι → WithTop Int}
    (hmeets : ∀ i ∈ jobs, (t.stop i : WithTop Int) ≤ due i) {j : ι} (hj : j ∈ jobs)
    {part : Finset ι} (hpart : ∀ i ∈ part, i ∈ jobs ∧ t.machine i = t.machine j ∧ due i ≤ due j) :
    ((opens (t.machine j) + ∑ i ∈ part, t.duration i : Int) : WithTop Int) ≤ due j := by
  cases hdue : due j with
  | top => exact le_top
  | coe bound =>
    have hstop : ∀ i ∈ jobs, due i ≤ due j → t.stop i ≤ bound := by
      intro i hi hle
      have hbound := (hmeets i hi).trans hle
      rw [hdue] at hbound
      exact WithTop.coe_le_coe.mp hbound
    have hopens : opens (t.machine j) ≤ bound := by
      have hafter := h.after j hj
      have hpositive := h.positive j hj
      have hbound := hstop j hj (le_refl _)
      unfold stop at hbound
      omega
    refine WithTop.coe_le_coe.mpr (h.work_le hopens ?_)
    intro i hi
    obtain ⟨hjob, hmachine, hle⟩ := hpart i hi
    exact ⟨hjob, hmachine, hstop i hjob hle⟩

/-- Machines that have finished all jobs by a bound had the time for them. -/
theorem Serial.sum_duration_le [DecidableEq μ] {opensAt bound : Int}
    (h : t.Serial (fun _ => opensAt) jobs) (machines : Finset μ)
    (hmachines : ∀ i ∈ jobs, t.machine i ∈ machines) (hopens : opensAt ≤ bound)
    (hstop : ∀ i ∈ jobs, t.stop i ≤ bound) :
    ∑ i ∈ jobs, t.duration i ≤ machines.card * (bound - opensAt) := by
  have hmachine : ∀ m ∈ machines, ∑ i ∈ jobs with t.machine i = m, t.duration i ≤
      bound - opensAt := by
    intro m _
    have hwork : opensAt + ∑ i ∈ jobs with t.machine i = m, t.duration i ≤ bound := by
      apply h.work_le (m := m) hopens
      intro i hi
      obtain ⟨hjob, hsame⟩ := Finset.mem_filter.mp hi
      exact ⟨hjob, hsame, hstop i hjob⟩
    omega
  calc ∑ i ∈ jobs, t.duration i = ∑ m ∈ machines, ∑ i ∈ jobs with t.machine i = m, t.duration i :=
        (Finset.sum_fiberwise_of_maps_to hmachines _).symm
    _ ≤ ∑ m ∈ machines, (bound - opensAt) := Finset.sum_le_sum hmachine
    _ = machines.card * (bound - opensAt) := by rw [Finset.sum_const, nsmul_eq_mul]

/-- A job that starts no later than the work of the other jobs, shared out among the machines, is
done in less than twice the time that any timetable takes. -/
theorem finish_le_of_shared {machines start duration opensAt total bound : Int}
    (hmachines : 1 ≤ machines) (hshared : machines * start + duration ≤ machines * opensAt + total)
    (htotal : total ≤ machines * (bound - opensAt)) (hduration : duration ≤ bound - opensAt) :
    machines * (start + duration - opensAt) ≤ (2 * machines - 1) * (bound - opensAt) := by
  have hothers : (machines - 1) * duration ≤ (machines - 1) * (bound - opensAt) :=
    mul_le_mul_of_nonneg_left hduration (by omega)
  calc machines * (start + duration - opensAt)
      = (machines * start + duration) - machines * opensAt + (machines - 1) * duration := by ring
    _ ≤ total + (machines - 1) * duration := by omega
    _ ≤ machines * (bound - opensAt) + (machines - 1) * (bound - opensAt) :=
      add_le_add htotal hothers
    _ = (2 * machines - 1) * (bound - opensAt) := by ring

/-- The number of jobs on the machine of a job that are started no earlier: what the job takes is
part of the completion time of each of them. -/
def lead [DecidableEq μ] (t : Timetable ι μ) (jobs : Finset ι) (j : ι) : Nat :=
  (jobs.filter fun i => t.machine j = t.machine i ∧ t.start j ≤ t.start i).card

/-- The least total of the leads of so many jobs on so many machines. -/
def staircase (machines : Nat) : Nat → Nat
  | 0 => 0
  | n + 1 => staircase machines n + (n / machines + 1)

variable [DecidableEq μ]

theorem Serial.sum_stop_ge (h : t.Serial opens jobs) :
    ∑ i ∈ jobs, opens (t.machine i) + ∑ j ∈ jobs, t.duration j * t.lead jobs j ≤ ∑ i ∈ jobs,
    t.stop i := by
  have hstop : ∀ i ∈ jobs, opens (t.machine i) +
      ∑ j ∈ jobs, (if t.machine j = t.machine i ∧ t.start j ≤ t.start i then t.duration j else 0) ≤
        t.stop i := by
    intro i hi
    rw [← Finset.sum_filter]
    have hpositive := h.positive i hi
    have hafter := h.after i hi
    refine h.work_le (by unfold stop; omega) ?_
    intro j hj
    obtain ⟨hjob, hmachine, hstart⟩ := Finset.mem_filter.mp hj
    refine ⟨hjob, hmachine, ?_⟩
    by_cases hne : j = i
    · rw [hne]
    · rcases h.apart j hjob i hi hne hmachine with hbefore | hbehind
      · unfold stop at hbefore ⊢
        omega
      · unfold stop at hbehind
        omega
  have hsum := Finset.sum_le_sum hstop
  rw [Finset.sum_add_distrib, Finset.sum_comm] at hsum
  have hlead : ∀ j ∈ jobs, (∑ i ∈ jobs,
      if t.machine j = t.machine i ∧ t.start j ≤ t.start i then t.duration j else 0) =
        t.duration j * t.lead jobs j := by
    intro j _
    rw [← Finset.sum_filter, Finset.sum_const, nsmul_eq_mul, mul_comm]
    rfl
  rwa [Finset.sum_congr rfl hlead] at hsum

/-- Of the jobs on the fullest machine the one that is started first leads all others there. -/
theorem exists_lead_ge {machines : Finset μ} (hmachines : ∀ i ∈ jobs, t.machine i ∈ machines)
    {part : Finset ι} (hsub : part ⊆ jobs) {n : Nat} (hcard : part.card = n + 1) :
    ∃ j ∈ part, n / machines.card + 1 ≤ t.lead jobs j := by
  have hpigeon : machines.card * (n / machines.card) < part.card := by
    have hle := Nat.mul_div_le n machines.card
    omega
  obtain ⟨m, -, hfull⟩ := Finset.exists_lt_card_fiber_of_mul_lt_card_of_maps_to
    (fun i hi => hmachines i (hsub hi)) hpigeon
  have hnonempty : (part.filter fun i => t.machine i = m).Nonempty :=
    Finset.card_pos.mp (Nat.zero_lt_of_lt hfull)
  obtain ⟨j, hj, hfirst⟩ := Finset.exists_min_image _ t.start hnonempty
  obtain ⟨hmem, hmachine⟩ := Finset.mem_filter.mp hj
  refine ⟨j, hmem, le_trans hfull (Finset.card_le_card ?_)⟩
  intro i hi
  obtain ⟨himem, himachine⟩ := Finset.mem_filter.mp hi
  exact Finset.mem_filter.mpr ⟨hsub himem, hmachine.trans himachine.symm, hfirst i hi⟩

theorem staircase_le_sum_lead [DecidableEq ι] {machines : Finset μ}
    (hmachines : ∀ i ∈ jobs, t.machine i ∈ machines) {part : Finset ι} (hsub : part ⊆ jobs) :
    staircase machines.card part.card ≤ ∑ j ∈ part, t.lead jobs j := by
  induction hcard : part.card generalizing part with
  | zero => exact Nat.zero_le _
  | succ n ih =>
    obtain ⟨j, hj, hlead⟩ := exists_lead_ge hmachines hsub hcard
    have herase : (part.erase j).card = n := by
      rw [Finset.card_erase_of_mem hj, hcard]
      rfl
    have hrest := ih ((Finset.erase_subset j part).trans hsub) herase
    rw [← Finset.sum_erase_add _ _ hj, staircase]
    omega

/-- The durations of jobs, each as often as the staircase has it for the jobs from it on. -/
def weighted (machines : Nat) : List Int → Int
  | [] => 0
  | duration :: rest => duration * (rest.length / machines + 1 : Nat) + weighted machines rest

theorem weighted_shift (machines : Nat) (order : List ι) (duration : ι → Int) (c d : Int) :
    weighted machines (order.map fun i => duration i - c) =
      weighted machines (order.map fun i => duration i - d) + (d - c) * staircase machines
        order.length := by
  induction order with
  | nil => simp [weighted, staircase]
  | cons i rest ih =>
    simp only [List.map_cons, weighted, List.length_map, List.length_cons, staircase, ih]
    push_cast
    ring

theorem sum_mul_shift (order : List ι) (duration : ι → Int) (leads : ι → Nat) (c d : Int) :
    (order.map fun i => (duration i - c) * leads i).sum =
      (order.map fun i => (duration i - d) * leads i).sum + (d - c) * (order.map leads).sum := by
  induction order with
  | nil => simp
  | cons i rest ih =>
    simp only [List.map_cons, List.sum_cons, ih]
    push_cast
    ring

/-- Leads that reach the staircase on the longest jobs, however many, weigh no less than it. -/
theorem weighted_le {order : List ι} {duration : ι → Int}
    (hsorted : order.Pairwise fun i j => duration i ≤ duration j) {leads : ι → Nat} {machines : Nat}
    {c : Int} (hc : ∀ i ∈ order, c ≤ duration i)
    (hleads : ∀ suffix, suffix <:+ order →
      staircase machines suffix.length ≤ (suffix.map leads).sum) :
    weighted machines (order.map fun i => duration i - c) ≤
      (order.map fun i => (duration i - c) * leads i).sum := by
  induction order generalizing c with
  | nil => exact le_refl _
  | cons i rest ih =>
    obtain ⟨hfirst, hrest⟩ := List.pairwise_cons.mp hsorted
    have hrestLe := ih hrest hfirst fun suffix hsuffix =>
      hleads suffix (hsuffix.trans (List.suffix_cons i rest))
    have hall := hleads (i :: rest) (List.suffix_refl _)
    rw [List.map_cons, List.sum_cons, List.length_cons, staircase] at hall
    have hpositive : 0 ≤ duration i - c := Int.sub_nonneg_of_le (hc i List.mem_cons_self)
    have hweights := weighted_shift machines rest duration c (duration i)
    have hsums := sum_mul_shift rest duration leads c (duration i)
    simp only [List.map_cons, List.sum_cons, weighted, List.length_map]
    generalize rest.length / machines + 1 = level at hall ⊢
    generalize (rest.map leads).sum = total at hall hsums
    -- What the first job is longer than `c` counts for all jobs, the rest by induction.
    have hexcess := mul_le_mul_of_nonneg_left (Int.ofNat_le.mpr hall) hpositive
    push_cast at hexcess
    rw [mul_add, mul_add] at hexcess
    omega

end Timetable

/-- Jobs of the durations go in turn to a machine that is free first; the sum of the completion
times. -/
inductive FreeFirst {μ : Type} [DecidableEq μ] (machines : List μ) :
    (μ → Int) → List Int → Int → Prop where
  | nil (free : μ → Int) : FreeFirst machines free [] 0
  | cons {free : μ → Int} {duration : Int} {rest : List Int} {total : Int} (m : μ)
    (hmem : m ∈ machines)
      (hfirst : ∀ other ∈ machines, free m ≤ free other)
      (hrest : FreeFirst machines (Function.update free m (free m + duration)) rest total) :
      FreeFirst machines free (duration :: rest) (free m + duration + total)

def queueTotal : List Int → List Int → Int
  | first :: others, duration :: rest =>
    first + duration + queueTotal (others ++ [first + duration]) rest
  | _, _ => 0

def queueShare : List Int → Nat → Int
  | first :: others, n + 1 => first + queueShare (others ++ [first]) n
  | _, _ => 0

theorem queueShare_add (before after : List Int) (first extra : Int) (n : Nat) :
    queueShare (before ++ (first + extra) :: after) n =
      queueShare (before ++ first :: after) n +
        extra * ((n + after.length) / (before.length + 1 + after.length) : Nat) := by
  induction n generalizing before after first with
  | zero =>
    have hsmall : (0 + after.length) / (before.length + 1 + after.length) = 0 :=
      Nat.div_eq_of_lt (by omega)
    rw [hsmall]
    cases before <;> simp [queueShare]
  | succ n ih =>
    cases before with
    | nil =>
      -- The free instant itself is used, and then waits behind the others.
      have hlevel : (n + 1 + after.length) / (([] : List Int).length + 1 + after.length) =
          (n + ([] : List Int).length) / (after.length + 1 + ([] : List Int).length) + 1 := by
        simp only [List.length_nil, zero_add, add_zero]
        rw [add_assoc, add_comm 1, Nat.add_div_right _ (Nat.succ_pos _)]
      have hnext := ih after [] first
      rw [hlevel, List.nil_append, List.nil_append, queueShare, queueShare, hnext]
      push_cast
      ring
    | cons earlier before =>
      have hnext := ih before (after ++ [earlier]) first
      simp only [List.cons_append, queueShare, List.append_assoc, List.length_cons,
        List.length_append, List.length_nil] at hnext ⊢
      rw [hnext, show n + (after.length + (0 + 1)) = n + 1 + after.length by omega,
        show before.length + 1 + (after.length + (0 + 1)) =
          before.length + 1 + 1 + after.length by omega]
      ring

theorem queueTotal_eq (first : Int) (others durations : List Int) :
    queueTotal (first :: others) durations =
      queueShare (first :: others) durations.length + Timetable.weighted (others.length + 1)
        durations := by
  induction durations generalizing first others with
  | nil => simp [queueTotal, queueShare, Timetable.weighted]
  | cons duration rest ih =>
    have hlength : (others ++ [first + duration]).length = others.length + 1 := by simp
    have hadd := queueShare_add others [] first duration rest.length
    simp only [List.length_nil, add_zero] at hadd
    cases others with
    | nil =>
      have hnext := ih (first + duration) []
      simp only [queueTotal, queueShare, Timetable.weighted, List.nil_append, List.length_cons]
        at hnext hadd ⊢
      rw [hnext, hadd]
      push_cast
      ring
    | cons second others =>
      have hnext := ih second (others ++ [first + duration])
      simp only [queueTotal, queueShare, Timetable.weighted, List.cons_append, List.length_cons,
        List.length_append, List.length_nil] at hnext hadd ⊢
      rw [hnext, hadd]
      push_cast
      ring

theorem queueShare_replicate (machines : Nat) (opens : Int) (n : Nat) :
    queueShare (List.replicate (machines + 1) opens) n = n * opens := by
  induction n with
  | zero => simp [List.replicate_succ, queueShare]
  | succ n ih =>
    rw [List.replicate_succ, queueShare, ← List.replicate_succ', ih]
    push_cast
    ring

section FreeFirst

variable {ι μ : Type} [DecidableEq μ] {machines : List μ}

/-- The free instants of the machines, when the one that is first takes a job. -/
theorem perm_map_update (hnodup : machines.Nodup) {free : μ → Int} {m : μ} (hmem : m ∈ machines)
    (duration : Int) {others : List Int} (h : (free m :: others).Perm (machines.map free)) :
    (others ++ [free m + duration]).Perm
      (machines.map (Function.update free m (free m + duration))) := by
  have hsplit := List.perm_cons_erase hmem
  have hothers : others.Perm ((machines.erase m).map free) :=
    (List.perm_cons (free m)).mp (h.trans (hsplit.map free))
  have hkept : (machines.erase m).map (Function.update free m (free m + duration)) =
      (machines.erase m).map free := by
    apply List.map_congr_left
    intro other hother
    have hne : other ≠ m := fun heq => hnodup.not_mem_erase (heq ▸ hother)
    exact Function.update_of_ne hne _ _
  have hupdated := hsplit.map (Function.update free m (free m + duration))
  rw [List.map_cons, Function.update_self, hkept] at hupdated
  exact (List.perm_append_singleton _ _).trans ((hothers.cons _).trans hupdated.symm)

theorem FreeFirst.total_eq (hnodup : machines.Nodup) {free : μ → Int} {durations : List Int}
    {total : Int} (h : FreeFirst machines free durations total) {queue : List Int}
    (hqueue : queue.Perm (machines.map free)) (hordered : queue.Pairwise (· ≤ ·))
    (hspread : ∀ f ∈ queue, ∀ g ∈ queue, ∀ d ∈ durations, f ≤ g + d)
    (hsorted : durations.Pairwise (· ≤ ·)) (hpositive : ∀ d ∈ durations, 0 ≤ d) :
    total = queueTotal queue durations := by
  induction h generalizing queue with
  | nil free => cases queue <;> rfl
  | @cons free duration rest total m hmem hfirst hrest ih =>
    obtain ⟨hduration, hrestSorted⟩ := List.pairwise_cons.mp hsorted
    obtain ⟨hzero, hrestPositive⟩ := List.forall_mem_cons.mp hpositive
    have hm : free m ∈ queue := hqueue.mem_iff.mpr (List.mem_map_of_mem hmem)
    cases queue with
    | nil => exact absurd hm List.not_mem_nil
    | cons first others =>
      obtain ⟨hleast, hothers⟩ := List.pairwise_cons.mp hordered
      have hhead : first = free m := by
        obtain ⟨other, hother, hsame⟩ := List.mem_map.mp (hqueue.mem_iff.mp List.mem_cons_self)
        have hle := hfirst other hother
        rcases List.mem_cons.mp hm with heq | hlater
        · exact heq.symm
        · have hge := hleast _ hlater
          omega
      subst hhead
      have hlate : ∀ f ∈ others, f ≤ free m + duration := fun f hf =>
        hspread f (List.mem_cons_of_mem _ hf) _ List.mem_cons_self duration List.mem_cons_self
      rw [queueTotal, ← ih (perm_map_update hnodup hmem duration hqueue) ?_ ?_ hrestSorted
        hrestPositive]
      · refine List.pairwise_append.mpr ⟨hothers, List.pairwise_singleton _ _, ?_⟩
        intro f hf g hg
        rw [List.mem_singleton.mp hg]
        exact hlate f hf
      · intro f hf g hg d hd
        have hlonger := hduration d hd
        have hnonneg := hrestPositive d hd
        rcases List.mem_append.mp hf with hf | hf <;> rcases List.mem_append.mp hg with hg | hg
        · exact hspread f (List.mem_cons_of_mem _ hf) g (List.mem_cons_of_mem _ hg) d
            (List.mem_cons_of_mem _ hd)
        · have hle := hlate f hf
          rw [List.mem_singleton.mp hg]
          omega
        · have hge := hleast g hg
          rw [List.mem_singleton.mp hf]
          omega
        · rw [List.mem_singleton.mp hf, List.mem_singleton.mp hg]
          omega

/-- The shortest job first: no timetable of the jobs on the machines, all free from one instant on,
has a smaller total of the completion times. -/
theorem FreeFirst.total_le [DecidableEq ι] (hnodup : machines.Nodup) {t : Timetable ι μ}
    {opens : Int} {order : List ι} (horder : order.Nodup)
    (hsorted : order.Pairwise fun i j => t.duration i ≤ t.duration j)
    (hserial : t.Serial (fun _ => opens) order.toFinset)
    (hmachines : ∀ i ∈ order, t.machine i ∈ machines) {total : Int}
    (h : FreeFirst machines (fun _ => opens) (order.map t.duration) total) :
    total ≤ (order.map t.stop).sum := by
  have hpositive : ∀ i ∈ order, 0 < t.duration i :=
    fun i hi => hserial.positive i (List.mem_toFinset.mpr hi)
  have hdurations : ∀ d ∈ order.map t.duration, 0 ≤ d := by
    intro d hd
    obtain ⟨i, hi, rfl⟩ := List.mem_map.mp hd
    exact le_of_lt (hpositive i hi)
  have htotal : total = queueTotal (machines.map fun _ => opens) (order.map t.duration) := by
    apply h.total_eq hnodup (List.Perm.refl _) ?_ ?_ (List.pairwise_map.mpr hsorted) hdurations
    · exact List.pairwise_map.mpr (List.pairwise_of_forall fun _ _ => le_refl opens)
    · intro f hf g hg d hd
      obtain ⟨-, -, rfl⟩ := List.mem_map.mp hf
      obtain ⟨-, -, rfl⟩ := List.mem_map.mp hg
      have hnonneg := hdurations d hd
      omega
  cases hcount : machines with
  | nil =>
    have hnone : order = [] :=
      List.eq_nil_iff_forall_not_mem.mpr fun i hi => by simpa [hcount] using hmachines i hi
    rw [htotal, hnone, hcount]
    exact le_refl _
  | cons first others =>
    have hmap : (machines.map fun _ => opens) = opens :: List.replicate others.length opens := by
      rw [hcount, List.map_const', List.length_cons, List.replicate_succ]
    have hshare := queueShare_replicate others.length opens (order.map t.duration).length
    rw [List.replicate_succ] at hshare
    rw [hmap, queueTotal_eq, List.length_replicate, hshare, List.length_map] at htotal
    have hleads : ∀ suffix, suffix <:+ order →
        Timetable.staircase (others.length + 1) suffix.length ≤
        (suffix.map (t.lead order.toFinset)).sum := by
      intro suffix hsuffix
      have hsuffixNodup := hsuffix.sublist.nodup horder
      have hmembers : ∀ i ∈ order.toFinset, t.machine i ∈ machines.toFinset := fun i hi =>
        List.mem_toFinset.mpr (hmachines i (List.mem_toFinset.mp hi))
      have hsub : suffix.toFinset ⊆ order.toFinset := fun i hi =>
        List.mem_toFinset.mpr (hsuffix.subset (List.mem_toFinset.mp hi))
      have hbound := Timetable.staircase_le_sum_lead hmembers hsub
      rwa [List.toFinset_card_of_nodup hnodup, List.toFinset_card_of_nodup hsuffixNodup, hcount,
        List.length_cons, List.sum_toFinset _ hsuffixNodup] at hbound
    have hweights :=
      Timetable.weighted_le hsorted (c := 0) (fun i hi => le_of_lt (hpositive i hi)) hleads
    have hstop := hserial.sum_stop_ge
    rw [List.sum_toFinset _ horder, List.sum_toFinset _ horder, List.sum_toFinset _ horder,
      List.map_const', List.sum_replicate, nsmul_eq_mul] at hstop
    simp only [sub_zero] at hweights
    calc total =
      order.length * opens + Timetable.weighted (others.length + 1) (order.map t.duration) := htotal
      _ ≤ order.length * opens + (order.map fun i => t.duration i * t.lead order.toFinset i).sum :=
        Int.add_le_add_left hweights _
      _ ≤ (order.map t.stop).sum := hstop

end FreeFirst

end TaskOrchestrator.Library
