import TaskOrchestrator.Library.Doubles

/-!
# Numbers and their texts

Numbers as a script computes with them: doubles and NaN. Infinities and the two zeros are not told
apart from what is finite. The text of an integral number has the fewest digits that are read as the
same double.
-/

namespace TaskOrchestrator.Library

set_option autoImplicit false

/-- The two multiples of 10^j around an integer, the nearer one first. -/
def nearMultiples (x : ℤ) (j : ℕ) : List ℤ :=
  let low := x / 10 ^ j * 10 ^ j
  if x - low ≤ low + 10 ^ j - x then [low, low + 10 ^ j] else [low + 10 ^ j, low]

/-- The integer that is printed for an integral double below 10^21: the one with the most zeros at
its end that is read as the double, and the nearest of these. -/
def shortest (x : ℤ) : ℤ :=
  (((List.range 22).reverse.flatMap (nearMultiples x)).find? fun n : ℤ => double n = x).getD x

theorem shortest_cases (x : ℤ) : double (shortest x) = x ∨ shortest x = x := by
  rw [shortest]
  cases hfind : ((List.range 22).reverse.flatMap (nearMultiples x)).find? fun n : ℤ =>
    double n = x with
  | none => exact Or.inr rfl
  | some n => exact Or.inl (by simpa using List.find?_some hfind)

theorem double_shortest {x : ℤ} (h : double x = x) : double (shortest x) = x := by
  rcases shortest_cases x with hdouble | hself
  · exact hdouble
  · rw [hself, h]

theorem shortest_of_lt {x : ℤ} (h : |x| < 2 ^ 53) : shortest x = x := by
  have hdouble := double_shortest (double_intCast h.le)
  by_cases hle : |shortest x| ≤ 2 ^ 53
  · rw [double_intCast hle] at hdouble
    exact_mod_cast hdouble
  · exfalso
    have hlarge : (2 : ℚ) ^ 53 ≤ |(shortest x : ℚ)| := by
      rw [← Int.cast_abs]
      exact_mod_cast (not_le.mp hle).le
    have hx : |(x : ℚ)| < 2 ^ 53 := by
      rw [← Int.cast_abs]
      exact_mod_cast h
    rw [abs_lt] at hx
    rcases le_abs.mp hlarge with hpos | hneg
    · have hvalue := le_double hpos
      rw [hdouble] at hvalue
      exact absurd hx.2 (not_lt.mpr hvalue)
    · have hvalue := le_double hneg
      rw [double_neg, hdouble] at hvalue
      exact absurd hx.1 (not_lt.mpr (le_neg.mpr hvalue))

/-- Larger integers are not printed as one below 2^53. -/
theorem le_shortest {x : ℤ} (h : 2 ^ 53 ≤ x) : 2 ^ 53 ≤ shortest x := by
  by_contra hlt
  have hx : (2 : ℚ) ^ 53 ≤ x := by exact_mod_cast h
  rcases shortest_cases x with hdouble | hself
  · have hsmall : (shortest x : ℚ) ≤ (2 ^ 53 - 1 : ℤ) := by
      exact_mod_cast (show shortest x ≤ 2 ^ 53 - 1 by omega)
    have hmono := double_mono hsmall
    rw [hdouble, double_intCast (by norm_num)] at hmono
    norm_num at hmono hx
    linarith
  · exact hlt (by rw [hself]; exact h)

inductive Number where
  | nan
  | finite (value : ℚ)
  deriving DecidableEq

namespace Number

def add : Number → Number → Number
  | finite p, finite q => finite (double (p + q))
  | _, _ => nan

def sub : Number → Number → Number
  | finite p, finite q => finite (double (p - q))
  | _, _ => nan

def mul : Number → Number → Number
  | finite p, finite q => finite (double (p * q))
  | _, _ => nan

def div : Number → Number → Number
  | finite p, finite q => finite (double (p / q))
  | _, _ => nan

instance : Add Number := ⟨add⟩
instance : Sub Number := ⟨sub⟩
instance : Mul Number := ⟨mul⟩
instance : Div Number := ⟨div⟩

def lt : Number → Number → Bool
  | finite p, finite q => p < q
  | _, _ => false

def le : Number → Number → Bool
  | finite p, finite q => p ≤ q
  | _, _ => false

def max : Number → Number → Number
  | finite p, finite q => finite (Max.max p q)
  | _, _ => nan

def min : Number → Number → Number
  | finite p, finite q => finite (Min.min p q)
  | _, _ => nan

def floor : Number → Number
  | finite q => finite ⌊q⌋
  | nan => nan

/-- To the next integer, halves upwards. -/
def round : Number → Number
  | finite q => finite ⌊q + 1 / 2⌋
  | nan => nan

def isFinite : Number → Bool
  | finite _ => true
  | nan => false

def zero : Number := finite 0

@[simp] theorem finite_add (p q : ℚ) : finite p + finite q = finite (double (p + q)) := rfl
@[simp] theorem finite_sub (p q : ℚ) : finite p - finite q = finite (double (p - q)) := rfl
@[simp] theorem finite_mul (p q : ℚ) : finite p * finite q = finite (double (p * q)) := rfl
@[simp] theorem finite_div (p q : ℚ) : finite p / finite q = finite (double (p / q)) := rfl
@[simp] theorem nan_sub (x : Number) : nan - x = nan := rfl
@[simp] theorem nan_div (x : Number) : nan / x = nan := rfl
@[simp] theorem lt_finite (p q : ℚ) : lt (finite p) (finite q) = decide (p < q) := rfl
@[simp] theorem le_finite (p q : ℚ) : le (finite p) (finite q) = decide (p ≤ q) := rfl
@[simp] theorem max_finite (p q : ℚ) : max (finite p) (finite q) = finite (Max.max p q) := rfl
@[simp] theorem min_finite (p q : ℚ) : min (finite p) (finite q) = finite (Min.min p q) := rfl
@[simp] theorem floor_finite (q : ℚ) : floor (finite q) = finite ⌊q⌋ := rfl
@[simp] theorem round_finite (q : ℚ) : round (finite q) = finite ⌊q + 1 / 2⌋ := rfl

theorem round_intCast (n : ℤ) : round (finite n) = finite n := by
  rw [round_finite, Int.floor_intCast_add, show ⌊(1 / 2 : ℚ)⌋ = 0 by norm_num, add_zero]

end Number

inductive NumberText where
  | nan
  | integer (value : ℤ)
  | decimal (value : ℚ)
  deriving DecidableEq

/-- `String(x)`. From 10^21 on the text has an exponent, which no reader of integers here accepts
any more than the integer. -/
def numberText : Number → NumberText
  | .nan => .nan
  | .finite q => if q.den = 1 then .integer (shortest q.num) else .decimal q

def readBounded (least greatest : ℤ) : NumberText → Option ℤ
  | .integer n => if least ≤ n ∧ n ≤ greatest then some n else none
  | _ => none

def readInt64 : NumberText → Option ℤ := readBounded (-2 ^ 63) (2 ^ 63 - 1)

def readInt32 : NumberText → Option ℤ := readBounded (-2 ^ 31) (2 ^ 31 - 1)

@[simp] theorem readInt64_nan : readInt64 (numberText .nan) = none := rfl

theorem numberText_intCast (n : ℤ) : numberText (.finite n) = .integer (shortest n) := by
  simp [numberText]

theorem readInt64_of_lt {n : ℤ} (h : |n| < 2 ^ 53) :
    readInt64 (numberText (.finite n)) = some n := by
  rw [numberText_intCast, shortest_of_lt h]
  rw [abs_lt] at h
  exact if_pos ⟨by omega, by omega⟩

theorem readInt64_eq_some_iff {n d : ℤ} (hn : 0 ≤ n) (hd : d < 2 ^ 53) :
    readInt64 (numberText (.finite n)) = some d ↔ n = d := by
  by_cases hlt : n < 2 ^ 53
  · rw [readInt64_of_lt (by rwa [abs_of_nonneg hn]), Option.some.injEq]
  · refine iff_of_false (fun hread => ?_) (by omega)
    have hlarge := le_shortest (not_lt.mp hlt)
    rw [numberText_intCast] at hread
    obtain ⟨-, rfl⟩ : _ ∧ shortest n = d := by simpa [readInt64, readBounded] using hread
    omega

theorem readInt32_of_bounds {n : ℤ} (hlow : -2 ^ 31 ≤ n) (hhigh : n ≤ 2 ^ 31 - 1) :
    readInt32 (numberText (.finite n)) = some n := by
  rw [numberText_intCast, shortest_of_lt (abs_lt.mpr ⟨by omega, by omega⟩)]
  exact if_pos ⟨hlow, hhigh⟩

theorem double_of_readInt64 {q : ℚ} {n : ℤ} (hq : double q = q)
    (h : readInt64 (numberText (.finite q)) = some n) :
    double n = q := by
  by_cases hden : q.den = 1
  · have hnum : (q.num : ℚ) = q := Rat.coe_int_num_of_den_eq_one hden
    rw [numberText, if_pos hden] at h
    obtain ⟨-, rfl⟩ : _ ∧ shortest q.num = n := by simpa [readInt64, readBounded] using h
    rw [double_shortest (by rw [hnum, hq]), hnum]
  · rw [numberText, if_neg hden] at h
    nomatch h

end TaskOrchestrator.Library
