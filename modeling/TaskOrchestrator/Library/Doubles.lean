import Mathlib.Data.Int.Log
import Mathlib.Data.Rat.Floor
import Mathlib.Algebra.Order.Field.Power
import Mathlib.Tactic.Linarith
import Mathlib.Tactic.NormNum
import Mathlib.Tactic.Positivity
import Mathlib.Tactic.FieldSimp
import Mathlib.Tactic.Ring

/-!
# Doubles

The double next to a rational number, ties to the even significand, and the shortest decimal text
of an integral double. The range of the exponent is not limited: there are no infinities and no
subnormal numbers.
-/

namespace TaskOrchestrator.Library

set_option autoImplicit false

/-- The integer next to a number, the even one of two. -/
def roundEven (q : ℚ) : ℤ :=
  if Int.fract q < 1 / 2 then ⌊q⌋
  else if 1 / 2 < Int.fract q then ⌊q⌋ + 1
  else if Even ⌊q⌋ then ⌊q⌋ else ⌊q⌋ + 1

@[simp] theorem roundEven_intCast (n : ℤ) : roundEven (n : ℚ) = n := by simp [roundEven]

theorem abs_roundEven_sub_le (q : ℚ) : |(roundEven q : ℚ) - q| ≤ 1 / 2 := by
  have hq : (⌊q⌋ : ℚ) = q - Int.fract q := by rw [Int.self_sub_fract]
  have hnonneg := Int.fract_nonneg q
  have hlt := Int.fract_lt_one q
  rw [abs_le]
  unfold roundEven
  split_ifs with hdown hup heven
  · rw [hq]
    constructor <;> linarith
  · push_cast
    rw [hq]
    constructor <;> linarith
  · rw [hq]
    constructor <;> linarith
  · push_cast
    rw [hq]
    constructor <;> linarith

theorem floor_le_roundEven (q : ℚ) : ⌊q⌋ ≤ roundEven q ∧ roundEven q ≤ ⌊q⌋ + 1 := by
  unfold roundEven
  split_ifs <;> omega

theorem roundEven_mono {p q : ℚ} (h : p ≤ q) : roundEven p ≤ roundEven q := by
  rcases (Int.floor_mono h).lt_or_eq with hlt | heq
  · exact (floor_le_roundEven p).2.trans (le_trans hlt (floor_le_roundEven q).1)
  · have hfract : Int.fract p ≤ Int.fract q := by
      rw [Int.fract, Int.fract, heq]
      linarith
    unfold roundEven
    rw [heq]
    split_ifs <;> first | omega | linarith

def lastDigit (q : ℚ) : ℤ := Int.log 2 |q| - 52

def double (q : ℚ) : ℚ := roundEven (q / 2 ^ lastDigit q) * 2 ^ lastDigit q

@[simp] theorem double_zero : double 0 = 0 := by
  have hzero : roundEven 0 = 0 := by simpa using roundEven_intCast 0
  simp [double, hzero]

theorem quotient_bounds {q : ℚ} (hq : q ≠ 0) :
    2 ^ 52 ≤ |q / 2 ^ lastDigit q| ∧ |q / 2 ^ lastDigit q| < 2 ^ 53 := by
  have habs : (0 : ℚ) < |q| := abs_pos.mpr hq
  have hpower : (0 : ℚ) < 2 ^ lastDigit q := by positivity
  have hlow : (2 : ℚ) ^ Int.log 2 |q| ≤ |q| := by
    exact_mod_cast Int.zpow_log_le_self (by decide) habs
  have hhigh : |q| < (2 : ℚ) ^ (Int.log 2 |q| + 1) := by
    exact_mod_cast Int.lt_zpow_succ_log_self (by decide) |q|
  rw [abs_div, abs_of_pos hpower, le_div_iff₀ hpower, div_lt_iff₀ hpower]
  constructor
  · refine le_of_eq_of_le ?_ hlow
    rw [lastDigit, ← zpow_natCast (2 : ℚ) 52, ← zpow_add₀ (by norm_num)]
    congr 1
    push_cast
    ring
  · refine lt_of_lt_of_eq hhigh ?_
    rw [lastDigit, ← zpow_natCast (2 : ℚ) 53, ← zpow_add₀ (by norm_num)]
    congr 1
    push_cast
    ring

theorem abs_double_sub_le (q : ℚ) : |double q - q| ≤ |q| / 2 ^ 53 := by
  by_cases hq : q = 0
  · simp [hq]
  · have hpower : (0 : ℚ) < 2 ^ lastDigit q := by positivity
    have hself : q = q / 2 ^ lastDigit q * 2 ^ lastDigit q := by field_simp
    have hround := abs_roundEven_sub_le (q / 2 ^ lastDigit q)
    have hlow := (quotient_bounds hq).1
    rw [abs_div, abs_of_pos hpower, le_div_iff₀ hpower] at hlow
    have hsub : double q - q = (roundEven (q / 2 ^ lastDigit q) - q / 2 ^ lastDigit q) * 2 ^
        lastDigit q := by
      rw [sub_mul, ← hself]
      rfl
    rw [hsub, abs_mul, abs_of_pos hpower, le_div_iff₀ (by positivity)]
    nlinarith

theorem lastDigit_eq {q : ℚ} {k : ℤ} (hlow : (2 : ℚ) ^ k ≤ |q|) (hhigh : |q| < (2 : ℚ) ^ (k + 1)) :
    lastDigit q = k - 52 := by
  have habs : (0 : ℚ) < |q| := lt_of_lt_of_le (by positivity) hlow
  have hle : k ≤ Int.log 2 |q| :=
    (Int.zpow_le_iff_le_log (by decide) habs).mp (by exact_mod_cast hlow)
  have hlt : Int.log 2 |q| < k + 1 :=
    (Int.lt_zpow_iff_log_lt (by decide) habs).mp (by exact_mod_cast hhigh)
  rw [lastDigit]
  omega

theorem double_mul_zpow {m : ℤ} (e : ℤ) (h : |m| ≤ 2 ^ 53) : double (m * 2 ^ e) = m * 2 ^ e := by
  by_cases hm : m = 0
  · simp [hm]
  · have hq : (m : ℚ) * 2 ^ e ≠ 0 := mul_ne_zero (Int.cast_ne_zero.mpr hm) (by positivity)
    -- The last digit is at most the exponent, or one more for the power of two.
    have hquotient : ∃ n : ℤ, (m : ℚ) * 2 ^ e / 2 ^ lastDigit (m * 2 ^ e) = n := by
      by_cases hpower : |m| = 2 ^ 53
      · have habs : |(m : ℚ) * 2 ^ e| = 2 ^ (53 + e) := by
          rw [abs_mul, abs_of_pos (show (0 : ℚ) < 2 ^ e by positivity), ← Int.cast_abs, hpower,
            zpow_add₀ (by norm_num)]
          norm_num
        have hlast : lastDigit ((m : ℚ) * 2 ^ e) = e + 1 := by
          have hvalue := lastDigit_eq (q := (m : ℚ) * 2 ^ e) (k := 53 + e) habs.ge (by
            rw [habs]
            exact zpow_lt_zpow_right₀ (by norm_num) (by omega))
          rw [hvalue]
          ring
        rcases abs_eq (by norm_num) |>.mp hpower with rfl | rfl
        · exact ⟨2 ^ 52, by rw [hlast, zpow_add₀ (by norm_num)]; field_simp; norm_num⟩
        · exact ⟨-2 ^ 52, by rw [hlast, zpow_add₀ (by norm_num)]; field_simp; norm_num⟩
      · have hlt : |m| < 2 ^ 53 := lt_of_le_of_ne h hpower
        have hlog : Int.log 2 |(m : ℚ) * 2 ^ e| < 53 + e := by
          refine (Int.lt_zpow_iff_log_lt (by decide) (abs_pos.mpr hq)).mp ?_
          push_cast
          rw [abs_mul, abs_of_pos (show (0 : ℚ) < 2 ^ e by positivity),
            zpow_add₀ (by norm_num), ← Int.cast_abs]
          refine mul_lt_mul_of_pos_right ?_ (by positivity)
          exact_mod_cast hlt
        obtain ⟨j, hj⟩ : ∃ j : ℕ, lastDigit ((m : ℚ) * 2 ^ e) + j = e :=
          ⟨(e - lastDigit ((m : ℚ) * 2 ^ e)).toNat, by rw [lastDigit] at *; omega⟩
        refine ⟨m * 2 ^ j, ?_⟩
        conv_lhs => rw [← hj]
        rw [hj, div_eq_iff (by positivity)]
        push_cast
        rw [mul_assoc, ← zpow_natCast (2 : ℚ) j, ← zpow_add₀ (by norm_num)]
        congr 2
        omega
    obtain ⟨n, hn⟩ := hquotient
    rw [double, hn, roundEven_intCast, ← hn]
    field_simp

theorem exists_double (q : ℚ) : ∃ m e : ℤ, |m| ≤ 2 ^ 53 ∧ double q = m * 2 ^ e := by
  by_cases hq : q = 0
  · exact ⟨0, 0, by norm_num, by simp [hq]⟩
  · refine ⟨roundEven (q / 2 ^ lastDigit q), lastDigit q, ?_, rfl⟩
    have hhigh := (quotient_bounds hq).2.le
    rw [abs_le] at hhigh ⊢
    constructor
    · have h := roundEven_mono (p := ((-2 ^ 53 : ℤ) : ℚ)) (q := q / 2 ^ lastDigit q)
        (by exact_mod_cast hhigh.1)
      rwa [roundEven_intCast] at h
    · have h := roundEven_mono (p := q / 2 ^ lastDigit q) (q := ((2 ^ 53 : ℤ) : ℚ))
        (by exact_mod_cast hhigh.2)
      rwa [roundEven_intCast] at h

@[simp] theorem double_double (q : ℚ) : double (double q) = double q := by
  obtain ⟨m, e, hm, heq⟩ := exists_double q
  rw [heq, double_mul_zpow e hm]

theorem double_intCast {n : ℤ} (h : |n| ≤ 2 ^ 53) : double n = n := by
  have hdouble := double_mul_zpow 0 h
  rwa [zpow_zero, mul_one] at hdouble

theorem roundEven_neg (q : ℚ) : roundEven (-q) = -roundEven q := by
  have hself : (⌊q⌋ : ℚ) = q - Int.fract q := by rw [Int.self_sub_fract]
  have hselfNeg : (⌊-q⌋ : ℚ) = -q - Int.fract (-q) := by rw [Int.self_sub_fract]
  by_cases hq : Int.fract q = 0
  · have hinteger : q = (⌊q⌋ : ℤ) := by rw [hself, hq, sub_zero]
    rw [hinteger, ← Int.cast_neg, roundEven_intCast, roundEven_intCast]
  · have hfract : Int.fract (-q) = 1 - Int.fract q := Int.fract_neg hq
    have hfloor : ⌊-q⌋ = -⌊q⌋ - 1 := by
      have hvalue : ((⌊-q⌋ : ℤ) : ℚ) = ((-⌊q⌋ - 1 : ℤ) : ℚ) := by
        push_cast
        linarith
      exact_mod_cast hvalue
    have heven : Even (-⌊q⌋ - 1) ↔ ¬Even ⌊q⌋ := by
      rw [Int.even_sub_one, even_neg]
    unfold roundEven
    rw [hfract, hfloor]
    rcases lt_trichotomy (Int.fract q) (1 / 2) with hlt | heq | hgt
    · rw [if_neg (by linarith), if_pos (by linarith), if_pos hlt]
      ring
    · rw [heq, if_neg (by norm_num), if_neg (by norm_num), if_neg (lt_irrefl _),
        if_neg (lt_irrefl _)]
      by_cases h : Even ⌊q⌋
      · rw [if_neg fun hodd => heven.mp hodd h, if_pos h]
        ring
      · rw [if_pos (heven.mpr h), if_neg h]
        ring
    · rw [if_pos (by linarith), if_neg (by linarith), if_pos hgt]
      ring

@[simp] theorem double_neg (q : ℚ) : double (-q) = -double q := by
  rw [double, double, lastDigit, lastDigit, abs_neg, neg_div, roundEven_neg]
  push_cast
  ring

/-- A double lies between the powers of two that its number lies between. -/
theorem double_bounds {q : ℚ} (hq : 0 < q) :
    (2 : ℚ) ^ Int.log 2 q ≤ double q ∧ double q ≤ 2 ^ (Int.log 2 q + 1) := by
  have hpower : (0 : ℚ) < 2 ^ lastDigit q := by positivity
  have hbounds := quotient_bounds hq.ne'
  rw [abs_of_pos (div_pos hq hpower)] at hbounds
  have hlow :=
    roundEven_mono (show ((2 ^ 52 : ℤ) : ℚ) ≤ q / 2 ^ lastDigit q by exact_mod_cast hbounds.1)
  have hhigh :=
    roundEven_mono (show q / 2 ^ lastDigit q ≤ ((2 ^ 53 : ℤ) : ℚ) by exact_mod_cast hbounds.2.le)
  rw [roundEven_intCast] at hlow hhigh
  have hlast : Int.log 2 q = lastDigit q + 52 := by
    rw [lastDigit, abs_of_pos hq]
    ring
  have hlowPower : (2 : ℚ) ^ Int.log 2 q = 2 ^ 52 * 2 ^ lastDigit q := by
    rw [hlast, zpow_add₀ (by norm_num), mul_comm]
    norm_num
  have hhighPower : (2 : ℚ) ^ (Int.log 2 q + 1) = 2 ^ 53 * 2 ^ lastDigit q := by
    rw [zpow_add₀ (by norm_num), hlowPower]
    ring
  rw [hlowPower, hhighPower, double]
  constructor
  · exact mul_le_mul_of_nonneg_right (by exact_mod_cast hlow) hpower.le
  · exact mul_le_mul_of_nonneg_right (by exact_mod_cast hhigh) hpower.le

theorem double_nonneg {q : ℚ} (hq : 0 ≤ q) : 0 ≤ double q := by
  rcases hq.eq_or_lt with rfl | hpos
  · rw [double_zero]
  · exact le_trans (by positivity) (double_bounds hpos).1

theorem double_mono_of_nonneg {p q : ℚ} (hp : 0 ≤ p) (h : p ≤ q) : double p ≤ double q := by
  rcases hp.eq_or_lt with rfl | hpos
  · rw [double_zero]
    exact double_nonneg h
  · rcases (Int.log_mono_right (b := 2) hpos h).eq_or_lt with heq | hlt
    · -- Both have the same last digit.
      have hlast : lastDigit p = lastDigit q := by
        rw [lastDigit, lastDigit, abs_of_pos hpos, abs_of_pos (hpos.trans_le h), heq]
      have hpower : (0 : ℚ) < 2 ^ lastDigit q := by positivity
      rw [double, double, hlast]
      refine mul_le_mul_of_nonneg_right ?_ hpower.le
      exact_mod_cast roundEven_mono (div_le_div_of_nonneg_right h hpower.le)
    · -- A power of two lies between them.
      calc double p ≤ 2 ^ (Int.log 2 p + 1) := (double_bounds hpos).2
        _ ≤ 2 ^ Int.log 2 q := zpow_le_zpow_right₀ (by norm_num) hlt
        _ ≤ double q := (double_bounds (hpos.trans_le h)).1

theorem double_mono {p q : ℚ} (h : p ≤ q) : double p ≤ double q := by
  rcases le_total 0 p with hp | hp
  · exact double_mono_of_nonneg hp h
  · rcases le_total 0 q with hq | hq
    · have hneg := double_nonneg (neg_nonneg.mpr hp)
      rw [double_neg] at hneg
      exact le_trans (neg_nonneg.mp hneg) (double_nonneg hq)
    · have hneg := double_mono_of_nonneg (neg_nonneg.mpr hq) (neg_le_neg h)
      rw [double_neg, double_neg] at hneg
      exact neg_le_neg_iff.mp hneg

theorem le_double {q : ℚ} (h : 2 ^ 53 ≤ q) : 2 ^ 53 ≤ double q := by
  have hself := double_intCast (n := 2 ^ 53) (by norm_num)
  calc (2 : ℚ) ^ 53 = double ((2 ^ 53 : ℤ) : ℚ) := by rw [hself]; norm_num
    _ ≤ double q := double_mono (by exact_mod_cast h)

theorem exists_double_intCast (n : ℤ) : ∃ m : ℤ, double n = m := by
  by_cases hn : |n| ≤ 2 ^ 53
  · exact ⟨n, double_intCast hn⟩
  · have hlarge : (2 : ℚ) ^ (53 : ℤ) ≤ |(n : ℚ)| := by
      rw [← Int.cast_abs]
      exact_mod_cast (not_le.mp hn).le
    have hlog : 53 ≤ Int.log 2 |(n : ℚ)| := by
      refine (Int.zpow_le_iff_le_log (by decide) (lt_of_lt_of_le (by positivity) hlarge)).mp ?_
      exact_mod_cast hlarge
    obtain ⟨j, hj⟩ : ∃ j : ℕ, lastDigit n = j := ⟨(lastDigit n).toNat, by rw [lastDigit]; omega⟩
    refine ⟨roundEven (n / 2 ^ lastDigit n) * 2 ^ j, ?_⟩
    rw [double, hj]
    push_cast
    rw [zpow_natCast]

end TaskOrchestrator.Library
