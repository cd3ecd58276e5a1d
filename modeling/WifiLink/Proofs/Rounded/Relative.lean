import Mathlib
import WifiLink.Proofs.Rounded.Nearest

/-!
# Errors relative to a number

The errors of a product are those of its factors, so they are counted in roundings; the errors of a
sum depend on how large its terms are.
-/

namespace WifiLink

/-! ## Products -/

/-- What a rounding of a number with full precision multiplies it with at most. -/
noncomputable def growth : ℝ := 1 + 2 ^ (-52 : ℤ)

theorem one_le_growth : 1 ≤ growth :=
  le_add_of_nonneg_right (zpow_nonneg two_pos.le _)

/-- The numbers differ by a factor that so many roundings may come to. -/
def Within (count : ℕ) (computed exact : ℝ) : Prop :=
  computed ≤ growth ^ count * exact ∧ exact ≤ growth ^ count * computed

namespace Within

variable {count count' : ℕ} {a b c : ℝ}

theorem trans (first : Within count a b) (second : Within count' b c) :
    Within (count + count') a c := by
  have nonneg : 0 ≤ growth := zero_le_one.trans one_le_growth
  constructor
  · calc
      a ≤ growth ^ count * b := first.1
      _ ≤ growth ^ count * (growth ^ count' * c) :=
        mul_le_mul_of_nonneg_left second.1 (pow_nonneg nonneg _)
      _ = growth ^ (count + count') * c := by rw [pow_add, mul_assoc]
  · calc
      c ≤ growth ^ count' * b := second.2
      _ ≤ growth ^ count' * (growth ^ count * a) :=
        mul_le_mul_of_nonneg_left first.2 (pow_nonneg nonneg _)
      _ = growth ^ (count + count') * a := by rw [pow_add, ← mul_assoc, mul_comm (_ ^ count')]

theorem mul_right (nonneg : 0 ≤ c) (near : Within count a b) : Within count (a * c) (b * c) := by
  rw [Within, ← mul_assoc, ← mul_assoc]
  exact ⟨mul_le_mul_of_nonneg_right near.1 nonneg, mul_le_mul_of_nonneg_right near.2 nonneg⟩

theorem mul_left (nonneg : 0 ≤ c) (near : Within count a b) : Within count (c * a) (c * b) := by
  rw [mul_comm c, mul_comm c]
  exact near.mul_right nonneg

theorem pow (nonneg : 0 ≤ a) (nonneg' : 0 ≤ b) (near : Within count a b) (exponent : ℕ) :
    Within (count * exponent) (a ^ exponent) (b ^ exponent) := by
  rw [Within, pow_mul, ← mul_pow, ← mul_pow]
  exact ⟨pow_le_pow_left₀ nonneg near.1 _, pow_le_pow_left₀ nonneg' near.2 _⟩

/-- A part of either of two numbers is about the same part of the other. -/
theorem le_of_sub_le_max {part : ℝ} (some : 0 ≤ part) (small : part ≤ 1 / 2) (nonneg : 0 ≤ a)
    (nonneg' : 0 ≤ b) (error : a - b ≤ part * max a b) : a ≤ (1 + 2 * part) * b := by
  rcases max_cases a b with ⟨larger, _⟩ | ⟨larger, _⟩
  · rw [larger] at error
    have left : (1 + 2 * part) * ((1 - part) * a) ≤ (1 + 2 * part) * b :=
      mul_le_mul_of_nonneg_left (by linarith) (by linarith)
    have rest : 0 ≤ part * (1 - 2 * part) * a :=
      mul_nonneg (mul_nonneg some (by linarith)) nonneg
    linarith
  · rw [larger] at error
    have rest := mul_nonneg some nonneg'
    linarith

/-- Rounding to a number of full precision. -/
theorem of_normal {x : ℝ} (nonneg : 0 ≤ x) (normal : 2 ^ (-1022 : ℤ) ≤ nearest x) :
    Within 1 (nearest x) x := by
  have some : (0 : ℝ) ≤ 2 ^ (-53 : ℤ) := zpow_nonneg two_pos.le _
  have small : (2 : ℝ) ^ (-53 : ℤ) ≤ 1 / 2 := by norm_num
  have twice : growth ^ 1 = 1 + 2 * 2 ^ (-53 : ℤ) := by
    norm_num [growth]
  have error : |nearest x - x| ≤ 2 ^ (-53 : ℤ) * max (nearest x) x := by
    refine (abs_nearest_sub_le_max x).trans ?_
    rw [abs_of_nonneg nonneg, lastPlace_div_two]
    apply max_le <;> apply mul_le_mul_of_nonneg_left _ some
    · exact le_max_right _ _
    · exact normal.trans (le_max_left _ _)
  obtain ⟨lower, upper⟩ := abs_le.mp error
  rw [Within, twice]
  constructor
  · exact le_of_sub_le_max some small (nearest_nonneg nonneg) nonneg upper
  · apply le_of_sub_le_max some small nonneg (nearest_nonneg nonneg)
    rw [max_comm]
    linarith

/-- A product of full precision whose last factor is at most one: so has the product before. -/
theorem of_normal_mul_mul (nonneg : 0 ≤ a * b) (nonneg' : 0 ≤ c) (le_one : c ≤ 1)
    (normal : 2 ^ (-1022 : ℤ) ≤ nearest (nearest (a * b) * c)) :
    Within 2 (nearest (nearest (a * b) * c)) (a * b * c) := by
  have inner := nearest_nonneg nonneg
  have smaller : nearest (nearest (a * b) * c) ≤ nearest (a * b) :=
    nearest_le_of_le (representable_nearest _) (mul_le_of_le_one_right inner le_one)
  exact (of_normal (mul_nonneg inner nonneg') normal).trans
    ((of_normal nonneg (normal.trans smaller)).mul_right nonneg')

theorem growth_pow_le (many : count ≤ 1200) : growth ^ count ≤ 1 + 1e-12 := by
  have few : (count : ℝ) ≤ 1200 := by exact_mod_cast many
  have small : |(count : ℝ) * 2 ^ (-52 : ℤ)| ≤ 5e-13 := by
    rw [abs_of_nonneg (mul_nonneg (Nat.cast_nonneg _) (zpow_nonneg two_pos.le _))]
    norm_num
    linarith
  have close := Real.abs_exp_sub_one_le (small.trans (by norm_num))
  calc
    growth ^ count ≤ Real.exp (2 ^ (-52 : ℤ)) ^ count := by
      apply pow_le_pow_left₀ (zero_le_one.trans one_le_growth)
      rw [growth, add_comm]
      exact Real.add_one_le_exp _
    _ = Real.exp (count * 2 ^ (-52 : ℤ)) := (Real.exp_nat_mul _ _).symm
    _ ≤ 1 + 1e-12 := by
      have := le_abs_self (Real.exp (count * 2 ^ (-52 : ℤ)) - 1)
      norm_num at small close this ⊢
      linarith

/-- A thousand roundings do no harm. -/
theorem abs_sub_le (many : count ≤ 1200) (nonneg : 0 ≤ a) (nonneg' : 0 ≤ b)
    (near : Within count a b) : |a - b| ≤ 2e-12 * b := by
  have scale := growth_pow_le many
  have upper : a ≤ (1 + 1e-12) * b := near.1.trans (mul_le_mul_of_nonneg_right scale nonneg')
  have lower : b ≤ (1 + 1e-12) * a := near.2.trans (mul_le_mul_of_nonneg_right scale nonneg)
  rw [abs_le]
  norm_num at upper lower ⊢
  constructor <;> linarith

end Within

/-! ## Sums and exponentials -/

theorem abs_nearest_sub_le_of_abs_le {x : ℝ} (small : |x| ≤ 2 ^ 12) :
    |nearest x - x| ≤ 2 ^ (-40 : ℤ) := by
  have last : lastPlace ≤ 2 ^ (-41 : ℤ) := zpow_le_zpow_right₀ one_le_two (by norm_num)
  calc
    |nearest x - x| ≤ 2 ^ (-53 : ℤ) * |x| + lastPlace / 2 := abs_nearest_sub_le x
    _ ≤ 2 ^ (-53 : ℤ) * 2 ^ 12 + 2 ^ (-41 : ℤ) / 2 :=
      add_le_add (mul_le_mul_of_nonneg_left small (zpow_nonneg two_pos.le _))
        (div_le_div_of_nonneg_right last two_pos.le)
    _ ≤ 2 ^ (-40 : ℤ) := by norm_num

/-- A sum of two numbers that are known up to errors. -/
theorem abs_nearest_add_sub_le {a b exact exact' error error' : ℝ} (near : |a - exact| ≤ error)
    (near' : |b - exact'| ≤ error') (small : |exact + exact'| + error + error' ≤ 2 ^ 12) :
    |nearest (a + b) - (exact + exact')| ≤ error + error' + 2 ^ (-40 : ℤ) := by
  have apart : |a + b - (exact + exact')| ≤ error + error' := by
    rw [add_sub_add_comm]
    exact (abs_add_le _ _).trans (add_le_add near near')
  have size := abs_sub_abs_le_abs_sub (a + b) (exact + exact')
  have rounded : |nearest (a + b) - (a + b)| ≤ 2 ^ (-40 : ℤ) :=
    abs_nearest_sub_le_of_abs_le (by linarith)
  have whole := abs_sub_le (nearest (a + b)) (a + b) (exact + exact')
  linarith

/-- A multiple of a rounded number. -/
theorem abs_nearest_mul_nearest_sub_le {count : ℕ} {x : ℝ} (few : count ≤ 1100)
    (small : |count * x| ≤ 1500) :
    |nearest (count * nearest x) - count * x| ≤ 2 * 2 ^ (-40 : ℤ) := by
  have many : (count : ℝ) ≤ 1100 := by exact_mod_cast few
  have nonneg : (0 : ℝ) ≤ count := Nat.cast_nonneg _
  have last : lastPlace ≤ 2 ^ (-60 : ℤ) := zpow_le_zpow_right₀ one_le_two (by norm_num)
  have place := lastPlace_pos
  have inner : |count * nearest x - count * x| ≤ 2 ^ (-40 : ℤ) := by
    calc
      |count * nearest x - count * x| = count * |nearest x - x| := by
        rw [← mul_sub, abs_mul, abs_of_nonneg nonneg]
      _ ≤ count * (2 ^ (-53 : ℤ) * |x| + lastPlace / 2) :=
        mul_le_mul_of_nonneg_left (abs_nearest_sub_le x) nonneg
      _ = 2 ^ (-53 : ℤ) * |count * x| + count * (lastPlace / 2) := by
        rw [abs_mul, abs_of_nonneg nonneg]
        ring
      _ ≤ 2 ^ (-53 : ℤ) * 1500 + 1100 * (2 ^ (-60 : ℤ) / 2) := by
        gcongr
      _ ≤ 2 ^ (-40 : ℤ) := by norm_num
  have size := abs_sub_abs_le_abs_sub (count * nearest x) (count * x)
  have rounded : |nearest (count * nearest x) - count * nearest x| ≤ 2 ^ (-40 : ℤ) := by
    have room : (1500 : ℝ) + 2 ^ (-40 : ℤ) ≤ 2 ^ 12 := by norm_num
    exact abs_nearest_sub_le_of_abs_le (by linarith)
  have whole := abs_sub_le (nearest (count * nearest x)) (count * nearest x) (count * x)
  linarith

theorem abs_exp_sub_exp_le {a b error : ℝ} (near : |a - b| ≤ error) (small : error ≤ 1) :
    |Real.exp a - Real.exp b| ≤ 2 * error * Real.exp b := by
  have positive := Real.exp_pos b
  have factored : Real.exp a - Real.exp b = (Real.exp (a - b) - 1) * Real.exp b := by
    rw [sub_mul, ← Real.exp_add, sub_add_cancel, one_mul]
  rw [factored, abs_mul, abs_of_pos positive]
  apply mul_le_mul_of_nonneg_right _ positive.le
  have close := Real.abs_exp_sub_one_le (near.trans small)
  linarith

end WifiLink
