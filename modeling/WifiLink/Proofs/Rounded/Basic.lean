import Mathlib
import WifiLink.Double.Arithmetic
import WifiLink.Proofs.Exact.Basic
import WifiLink.Proofs.Outcome
import WifiLink.Proofs.Rounded.Nearest

/-!
# Rounded numbers

What doubles make of exact numbers. The real ones have short significands and end below a power of
two, beyond which an infinity stands; a calculation is the exact one, and its result is rounded
once. All functions are rounded correctly, which no library promises. There is one zero.
-/

namespace WifiLink

/-- A real number that a double holds. -/
def IsDouble (x : ℝ) : Prop := Representable x ∧ |x| < 2 ^ 1024

theorem isDouble_of_abs_le {x : ℝ} (representable : Representable x) (small : |x| ≤ 2 ^ 53) :
    IsDouble x :=
  ⟨representable, small.trans_lt (pow_lt_pow_right₀ one_lt_two (by norm_num))⟩

theorem abs_nearest_le_two_pow {x : ℝ} {exponent : ℕ} (inside : |x| ≤ 2 ^ exponent) :
    |nearest x| ≤ 2 ^ exponent := by
  have bound : Representable ((2 : ℝ) ^ exponent) := by
    exact_mod_cast representable_two_zpow (by omega : -1074 ≤ (exponent : ℤ))
  exact abs_nearest_le_of_abs_le bound inside

theorem abs_nearest_lt_of_abs_le {x : ℝ} {exponent : ℕ} (inside : |x| ≤ 2 ^ exponent)
    (small : exponent < 1024) : |nearest x| < 2 ^ 1024 :=
  (abs_nearest_le_two_pow inside).trans_lt (pow_lt_pow_right₀ one_lt_two small)

theorem abs_nearest_add_nearest_le {x y : ℝ} {exponent : ℕ} (inside : |x| ≤ 2 ^ exponent)
    (inside' : |y| ≤ 2 ^ exponent) : |nearest x + nearest y| ≤ 2 ^ (exponent + 1) := by
  calc
    |nearest x + nearest y| ≤ |nearest x| + |nearest y| := abs_add_le _ _
    _ ≤ 2 ^ exponent + 2 ^ exponent :=
      add_le_add (abs_nearest_le_two_pow inside) (abs_nearest_le_two_pow inside')
    _ = 2 ^ (exponent + 1) := by rw [pow_succ, mul_two]

/-- A part of a double is in range. -/
theorem abs_nearest_mul_lt {x part : ℝ} (double : IsDouble x) (nonneg : 0 ≤ x)
    (some : 0 ≤ part) (le_one : part ≤ 1) : |nearest (x * part)| < 2 ^ 1024 := by
  rw [abs_of_nonneg (nearest_nonneg (mul_nonneg nonneg some))]
  calc
    nearest (x * part) ≤ x := nearest_le_of_le double.1 (mul_le_of_le_one_right nonneg le_one)
    _ ≤ |x| := le_abs_self x
    _ < 2 ^ 1024 := double.2

variable {tail : ErrorTail}

/-- An infinity, a missing number or what a double holds. -/
def Exact.IsRounded : Exact tail → Prop
  | finite x => IsDouble x
  | infinite _ => True
  | notANumber => True

/-- An exact number that is a double's. -/
@[ext]
structure Rounded (tail : ErrorTail) where
  exact : Exact tail
  isRounded : exact.IsRounded

/-- The nearest double: an infinity where the nearest short significand is out of range. -/
noncomputable def Exact.rounded : Exact tail → Rounded tail
  | finite x =>
      if inside : |nearest x| < 2 ^ 1024 then
        ⟨finite (nearest x), representable_nearest x, inside⟩
      else ⟨infinite (decide (x < 0)), trivial⟩
  | infinite negative => ⟨infinite negative, trivial⟩
  | notANumber => ⟨notANumber, trivial⟩

namespace Rounded

noncomputable def ofInt (n : ℤ) : Except ArithmeticFault (Rounded tail) :=
  if |nearest n| < 2 ^ 1024 then .ok (Exact.finite n).rounded else .error .integerTooLarge

/-- A real number must keep a real power. -/
noncomputable def keptPower (base result : Rounded tail) :
    Except ArithmeticFault (Rounded tail) :=
  match base.exact, result.exact with
  | .finite _, .infinite _ => .error .powerTooLarge
  | _, _ => .ok result

/-- The exponent becomes a double first. -/
noncomputable def power (x : Rounded tail) (n : ℤ) : Except ArithmeticFault (Rounded tail) :=
  if |nearest n| < 2 ^ 1024 then do
    let result ← x.exact.power ⌊nearest n⌋
    keptPower x result.rounded
  else .error .integerTooLarge

end Rounded

noncomputable instance (tail : ErrorTail) : Scalar (Rounded tail) where
  add x y := (x.exact + y.exact).rounded
  sub x y := (x.exact - y.exact).rounded
  mul x y := (x.exact * y.exact).rounded
  div x y := (x.exact / y.exact).rounded
  neg x := (-x.exact).rounded
  ofScientific mantissa negative exponent :=
    (OfScientific.ofScientific mantissa negative exponent : Exact tail).rounded
  lt x y := x.exact < y.exact
  le x y := x.exact ≤ y.exact
  decidableLT _ _ := Classical.propDecidable _
  decidableLE _ _ := Classical.propDecidable _
  ofInt := Rounded.ofInt
  ofNumeral numeral := (Exact.ofNumeral numeral).rounded
  room := Double.room
  floor x := x.exact.floor
  power := Rounded.power
  tenToThe x := (Scalar.tenToThe x.exact).rounded
  sqrt x := x.exact.sqrt.rounded
  erfc x := x.exact.erfc.rounded
  exp x := (Scalar.exp x.exact).rounded
  log x := x.exact.log.rounded
  logOnePlus x := (Scalar.logOnePlus x.exact).rounded
  logOfNat n := (Scalar.logOfNat n : Exact tail).rounded
  logTwoOfNat n := (Scalar.logTwoOfNat n : Exact tail).rounded

/-! ## Real numbers among rounded ones -/

section Finite

open Exact

variable {x : ℝ}

theorem exact_rounded_finite (inside : |nearest x| < 2 ^ 1024) :
    (finite x : Exact tail).rounded.exact = finite (nearest x) := by
  rw [rounded, dif_pos inside]

theorem exact_rounded_of_isDouble (double : IsDouble x) :
    (finite x : Exact tail).rounded.exact = finite x := by
  have same := nearest_of_representable double.1
  rw [exact_rounded_finite (by rw [same]; exact double.2), same]

end Finite

namespace Rounded

open Exact

variable {x y : Rounded tail} {a b : ℝ}

theorem isDouble_of_exact_eq (real : x.exact = finite a) : IsDouble a := by
  have double := x.isRounded
  rwa [real] at double

theorem le_iff (real : x.exact = finite a) (real' : y.exact = finite b) : x ≤ y ↔ a ≤ b := by
  rw [← @finite_le_finite tail, ← real, ← real']
  rfl

theorem lt_iff (real : x.exact = finite a) (real' : y.exact = finite b) : x < y ↔ a < b := by
  rw [← @finite_lt_finite tail, ← real, ← real']
  rfl

theorem exact_add (real : x.exact = finite a) (real' : y.exact = finite b)
    (inside : |nearest (a + b)| < 2 ^ 1024) : (x + y).exact = finite (nearest (a + b)) := by
  rw [← exact_rounded_finite inside, ← finite_add_finite, ← real, ← real']
  rfl

theorem exact_sub (real : x.exact = finite a) (real' : y.exact = finite b)
    (inside : |nearest (a - b)| < 2 ^ 1024) : (x - y).exact = finite (nearest (a - b)) := by
  rw [← exact_rounded_finite inside, ← finite_sub_finite, ← real, ← real']
  rfl

theorem exact_mul (real : x.exact = finite a) (real' : y.exact = finite b)
    (inside : |nearest (a * b)| < 2 ^ 1024) : (x * y).exact = finite (nearest (a * b)) := by
  rw [← exact_rounded_finite inside, ← finite_mul_finite, ← real, ← real']
  rfl

theorem exact_div (real : x.exact = finite a) (real' : y.exact = finite b) (nonzero : b ≠ 0)
    (inside : |nearest (a / b)| < 2 ^ 1024) : (x / y).exact = finite (nearest (a / b)) := by
  rw [← exact_rounded_finite inside, ← finite_div_finite a nonzero, ← real, ← real']
  rfl

theorem exact_neg (real : x.exact = finite a) : (-x).exact = finite (-a) := by
  have double := isDouble_of_exact_eq real
  have negated : IsDouble (-a) := ⟨double.1.neg, (abs_neg a).trans_lt double.2⟩
  rw [← exact_rounded_of_isDouble negated, ← neg_finite, ← real]
  rfl

theorem exact_ofScientific (mantissa : ℕ) (negative : Bool) (exponent : ℕ) :
    (OfScientific.ofScientific mantissa negative exponent : Rounded tail).exact =
      (finite (OfScientific.ofScientific mantissa negative exponent)).rounded.exact :=
  rfl

theorem exact_ofScientific_of_eq_intCast
    {mantissa : ℕ} {negative : Bool} {exponent : ℕ} {n : ℤ} (short : |n| ≤ 2 ^ 53)
    (whole : (OfScientific.ofScientific mantissa negative exponent : ℝ) = n) :
    (OfScientific.ofScientific mantissa negative exponent : Rounded tail).exact = finite n := by
  have small : |(n : ℝ)| ≤ 2 ^ 53 := by exact_mod_cast short
  have double := isDouble_of_abs_le (representable_intCast short) small
  rw [exact_ofScientific, whole, exact_rounded_of_isDouble double]

theorem exact_zero : (0.0 : Rounded tail).exact = finite 0 := by
  have whole : (0.0 : ℝ) = (0 : ℤ) := by norm_num
  rw [exact_ofScientific_of_eq_intCast (by norm_num) whole, Int.cast_zero]

theorem exact_one : (1.0 : Rounded tail).exact = finite 1 := by
  have whole : (1.0 : ℝ) = (1 : ℤ) := by norm_num
  rw [exact_ofScientific_of_eq_intCast (by norm_num) whole, Int.cast_one]

theorem exact_two : (2.0 : Rounded tail).exact = finite 2 := by
  have whole : (2.0 : ℝ) = (2 : ℤ) := by norm_num
  rw [exact_ofScientific_of_eq_intCast (by norm_num) whole, Int.cast_ofNat]

variable (tail) in
theorem ofInt_of_lt {n : ℤ} (inside : |nearest n| < 2 ^ 1024) :
    ∃ v : Rounded tail, Scalar.ofInt n = .ok v ∧ v.exact = finite (nearest n) :=
  ⟨_, if_pos inside, exact_rounded_finite inside⟩

theorem ofInt_of_not_lt {n : ℤ} (outside : ¬|nearest n| < 2 ^ 1024) :
    (Scalar.ofInt n : Except ArithmeticFault (Rounded tail)) = .error .integerTooLarge :=
  if_neg outside

theorem abs_nearest_natCast_lt {n : ℕ} (few : n ≤ 2 ^ 53) : |nearest n| < 2 ^ 1024 := by
  have small : |(n : ℤ)| ≤ 2 ^ 53 := by
    rw [Nat.abs_cast]
    exact_mod_cast few
  have cast : |((n : ℤ) : ℝ)| ≤ 2 ^ 53 := by exact_mod_cast small
  have double := isDouble_of_abs_le (representable_intCast small) cast
  rw [Int.cast_natCast] at double
  rw [nearest_of_representable double.1]
  exact double.2

theorem nearest_natCast {n : ℕ} (few : n ≤ 2 ^ 53) : nearest n = n := by
  have small : |(n : ℤ)| ≤ 2 ^ 53 := by
    rw [Nat.abs_cast]
    exact_mod_cast few
  exact_mod_cast nearest_of_representable (representable_intCast small)

variable (tail) in
theorem ofInt_natCast {n : ℕ} (few : n ≤ 2 ^ 53) :
    ∃ v : Rounded tail, Scalar.ofInt n = .ok v ∧ v.exact = finite n := by
  have inside : |nearest ((n : ℤ) : ℝ)| < 2 ^ 1024 := abs_nearest_natCast_lt few
  obtain ⟨v, found, v_eq⟩ := ofInt_of_lt tail inside
  rw [Int.cast_natCast, nearest_natCast few] at v_eq
  exact ⟨v, found, v_eq⟩

/-- Powers of a number of the unit interval stay there. -/
theorem power_of_mem {n : ℕ} (few : n ≤ 2 ^ 53) (real : x.exact = finite a) (positive : 0 < a)
    (le_one : a ≤ 1) :
    ∃ v : Rounded tail, Scalar.power x n = .ok v ∧ v.exact = finite (nearest (a ^ n)) := by
  have inside : |nearest ((n : ℤ) : ℝ)| < 2 ^ 1024 := abs_nearest_natCast_lt few
  have exponent : ⌊nearest ((n : ℤ) : ℝ)⌋ = n := by
    rw [Int.cast_natCast, nearest_natCast few, Int.floor_natCast]
  have raised : x.exact.power n = .ok (finite (a ^ n)) := by
    rw [real, ← zpow_natCast]
    exact power_finite a (Or.inl positive.ne')
  have small : |a ^ n| ≤ 2 ^ 0 := by
    rw [abs_of_pos (pow_pos positive n), pow_zero]
    exact pow_le_one₀ positive.le le_one
  have rounded := @exact_rounded_finite tail _ (abs_nearest_lt_of_abs_le small (by norm_num))
  refine ⟨(finite (a ^ n)).rounded, ?_, rounded⟩
  change power x n = _
  rw [power, if_pos inside, exponent, raised, ok_bind, keptPower, real, rounded]

theorem exact_log (real : x.exact = finite a) (positive : 0 < a)
    (inside : |nearest (Real.log a)| < 2 ^ 1024) :
    (Scalar.log x).exact = finite (nearest (Real.log a)) := by
  have found : x.exact.log = finite (Real.log a) := by
    rw [real, Exact.log, if_neg positive.not_gt, if_neg positive.ne']
  rw [← exact_rounded_finite inside, ← found]
  rfl

theorem exact_logOnePlus (real : x.exact = finite a) (positive : 0 < 1 + a)
    (inside : |nearest (Real.log (1 + a))| < 2 ^ 1024) :
    (Scalar.logOnePlus x).exact = finite (nearest (Real.log (1 + a))) := by
  have found : Scalar.logOnePlus x.exact = finite (Real.log (1 + a)) := by
    rw [real]
    change Exact.log (finite (1 + a)) = _
    rw [Exact.log, if_neg positive.not_gt, if_neg positive.ne']
  rw [← exact_rounded_finite inside, ← found]
  rfl

variable (tail) in
theorem exact_logOfNat {n : ℕ} (inside : |nearest (Real.log n)| < 2 ^ 1024) :
    (Scalar.logOfNat n : Rounded tail).exact = finite (nearest (Real.log n)) :=
  exact_rounded_finite inside

theorem exact_exp (real : x.exact = finite a) (inside : |nearest (Real.exp a)| < 2 ^ 1024) :
    (Scalar.exp x).exact = finite (nearest (Real.exp a)) := by
  have found : Scalar.exp x.exact = finite (Real.exp a) := by
    rw [real, ← Real.exp_one_rpow]
    rfl
  rw [← exact_rounded_finite inside, ← found]
  rfl

theorem isFinite_of_exact_eq (real : x.exact = finite a) : Scalar.isFinite x := by
  have none : |nearest (a - a)| < 2 ^ 1024 := by
    rw [sub_self, nearest_zero, abs_zero]
    positivity
  have known := exact_sub real real none
  have reflexive : x - x ≤ x - x := (le_iff known known).mpr le_rfl
  rw [Scalar.isFinite, Scalar.isNaN, decide_eq_true reflexive]
  rfl

end Rounded

end WifiLink
