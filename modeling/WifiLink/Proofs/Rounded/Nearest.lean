import Mathlib
import WifiLink.Proofs.Exact.Basic

/-!
# Rounding to doubles

A real number is rounded to the nearest one that has a significand of fifty-three bits and no bits
below the last place of doubles; a tie goes to the even significand. Where doubles end above is no
matter here.
-/

namespace WifiLink

/-! ## Whole numbers -/

/-- The integer nearest to a real number, a tie going to the even one. -/
noncomputable def nearestEven (x : ℝ) : ℤ :=
  if Even ⌊x⌋ then ⌈x - 1 / 2⌉ else ⌊x + 1 / 2⌋

theorem abs_nearestEven_sub_le_half (x : ℝ) : |(nearestEven x : ℝ) - x| ≤ 1 / 2 := by
  have lower := Int.floor_le (x + 1 / 2)
  have above := Int.lt_floor_add_one (x + 1 / 2)
  have upper := Int.le_ceil (x - 1 / 2)
  have below := Int.ceil_lt_add_one (x - 1 / 2)
  unfold nearestEven
  rw [abs_le]
  split_ifs <;> constructor <;> linarith

@[simp]
theorem nearestEven_intCast (n : ℤ) : nearestEven n = n := by
  have down : ⌈(n : ℝ) - 1 / 2⌉ = n := by
    rw [Int.ceil_eq_iff]
    constructor <;> linarith
  have up : ⌊(n : ℝ) + 1 / 2⌋ = n := by
    rw [Int.floor_eq_iff]
    constructor <;> linarith
  rw [nearestEven, down, up, ite_self]

/-- No integer is nearer. -/
theorem abs_nearestEven_sub_le (x : ℝ) (n : ℤ) : |(nearestEven x : ℝ) - x| ≤ |(n : ℝ) - x| := by
  by_cases same : n = nearestEven x
  · rw [same]
  · have apart : (1 : ℝ) ≤ |(n : ℝ) - nearestEven x| := by
      exact_mod_cast Int.one_le_abs (sub_ne_zero.mpr same)
    have between := abs_sub_le (n : ℝ) x (nearestEven x)
    rw [abs_sub_comm x] at between
    have half := abs_nearestEven_sub_le_half x
    linarith

theorem nearestEven_of_tie {n : ℤ} (even : Even n) : nearestEven (n + 1 / 2) = n := by
  have floor : ⌊(n : ℝ) + 1 / 2⌋ = n := by
    rw [Int.floor_eq_iff]
    constructor <;> linarith
  rw [nearestEven, floor, if_pos even, add_sub_cancel_right, Int.ceil_intCast]

/-! ## Numbers with short significands -/

/-- The least positive number that is kept. -/
noncomputable def lastPlace : ℝ := 2 ^ (-1074 : ℤ)

theorem lastPlace_pos : 0 < lastPlace :=
  zpow_pos two_pos _

theorem two_mul_lastPlace : 2 * lastPlace = 2 ^ (-1073 : ℤ) := by
  rw [lastPlace, ← zpow_one_add₀ two_ne_zero]
  norm_num

theorem two_pow_mul_lastPlace : 2 ^ 53 * lastPlace = 2 ^ (-1021 : ℤ) := by
  rw [lastPlace, ← zpow_natCast, ← zpow_add₀ two_ne_zero]
  norm_num

theorem lastPlace_div_two : lastPlace / 2 = 2 ^ (-53 : ℤ) * 2 ^ (-1022 : ℤ) := by
  rw [lastPlace, div_eq_mul_inv, ← zpow_sub_one₀ two_ne_zero, ← zpow_add₀ two_ne_zero]
  norm_num

/-- The number has a significand of at most fifty-three bits, none of them below the last place. -/
def Representable (x : ℝ) : Prop :=
  ∃ significand exponent : ℤ,
    |significand| ≤ 2 ^ 53 ∧ -1074 ≤ exponent ∧ x = significand * 2 ^ exponent

theorem representable_zero : Representable 0 :=
  ⟨0, 0, by norm_num, by norm_num, by norm_num⟩

theorem representable_intCast {n : ℤ} (short : |n| ≤ 2 ^ 53) : Representable n :=
  ⟨n, 0, short, by norm_num, by simp⟩

theorem representable_one : Representable 1 := by
  exact_mod_cast representable_intCast (n := 1) (by norm_num)

theorem representable_two_zpow {exponent : ℤ} (low : -1074 ≤ exponent) :
    Representable (2 ^ exponent) :=
  ⟨1, exponent, by norm_num, low, by norm_num⟩

theorem Representable.neg {x : ℝ} (representable : Representable x) : Representable (-x) := by
  obtain ⟨significand, exponent, short, low, rfl⟩ := representable
  exact ⟨-significand, exponent, by rwa [abs_neg], low, by push_cast; ring⟩

theorem Representable.exists_mul_lastPlace {x : ℝ} (representable : Representable x) :
    ∃ n : ℤ, x = n * lastPlace := by
  obtain ⟨significand, exponent, _, low, rfl⟩ := representable
  refine ⟨significand * 2 ^ (exponent + 1074).toNat, ?_⟩
  have split : (2 : ℝ) ^ exponent = 2 ^ (exponent + 1074).toNat * lastPlace := by
    rw [lastPlace, ← zpow_natCast, ← zpow_add₀ two_ne_zero]
    congr 1
    omega
  rw [split]
  push_cast
  ring

theorem Representable.lastPlace_le {x : ℝ} (representable : Representable x) (positive : 0 < x) :
    lastPlace ≤ x := by
  obtain ⟨n, rfl⟩ := representable.exists_mul_lastPlace
  rw [mul_pos_iff_of_pos_right lastPlace_pos, Int.cast_pos] at positive
  have cast : (1 : ℝ) ≤ n := by exact_mod_cast positive
  exact le_mul_of_one_le_left lastPlace_pos.le cast

theorem representable_mul_lastPlace {n : ℤ} (short : |n| ≤ 2 ^ 53) :
    Representable (n * lastPlace) :=
  ⟨n, -1074, short, le_rfl, rfl⟩

/-- No bit is lost by halving a number with a bit to spare. -/
theorem Representable.half {x : ℝ} (representable : Representable x)
    (spare : 2 ^ (-1021 : ℤ) ≤ |x|) : Representable (x / 2) := by
  obtain ⟨significand, exponent, short, low, rfl⟩ := representable
  rcases low.lt_or_eq with above | rfl
  · refine ⟨significand, exponent - 1, short, by omega, ?_⟩
    rw [zpow_sub_one₀ two_ne_zero]
    ring
  · rw [← two_pow_mul_lastPlace, ← lastPlace, abs_mul, abs_of_pos lastPlace_pos,
      mul_le_mul_iff_left₀ lastPlace_pos] at spare
    have full : |significand| = 2 ^ 53 := le_antisymm short (by exact_mod_cast spare)
    have even : (2 : ℤ) ∣ significand := by
      rw [← dvd_abs, full]
      norm_num
    obtain ⟨rest, rfl⟩ := even
    refine ⟨rest, -1074, ?_, le_rfl, ?_⟩
    · rw [abs_mul, abs_two] at short
      omega
    · push_cast
      ring

/-! ## Spacing -/

/-- The exponent of the last of fifty-three bits, unless the last place comes before. -/
noncomputable def gridExponent (x : ℝ) : ℤ := max (Int.log 2 |x| - 52) (-1074)

/-- How far the representable numbers are apart about a number. -/
noncomputable def gridStep (x : ℝ) : ℝ := 2 ^ gridExponent x

theorem gridStep_pos (x : ℝ) : 0 < gridStep x :=
  zpow_pos two_pos _

theorem abs_lt_gridStep (x : ℝ) : |x| < 2 ^ 53 * gridStep x := by
  rcases eq_or_ne x 0 with rfl | nonzero
  · rw [abs_zero]
    have positive := gridStep_pos 0
    positivity
  · calc
      |x| < 2 ^ (Int.log 2 |x| + 1) :=
        Int.lt_zpow_succ_log_self one_lt_two _
      _ ≤ 2 ^ (53 + gridExponent x) := by
        apply zpow_le_zpow_right₀ one_le_two
        have := le_max_left (Int.log 2 |x| - 52) (-1074)
        unfold gridExponent
        omega
      _ = 2 ^ 53 * gridStep x := by
        rw [zpow_add₀ two_ne_zero]
        rfl

/-- Above the first numbers with full precision, the leading bit counts. -/
theorem gridStep_le_abs_or_eq {x : ℝ} (nonzero : x ≠ 0) :
    2 ^ 52 * gridStep x ≤ |x| ∨ gridStep x = lastPlace := by
  unfold gridStep gridExponent
  rcases le_total (-1074) (Int.log 2 |x| - 52) with normal | small
  · left
    rw [max_eq_left normal]
    calc
      (2 : ℝ) ^ 52 * 2 ^ (Int.log 2 |x| - 52) = 2 ^ (52 + (Int.log 2 |x| - 52)) := by
        rw [zpow_add₀ two_ne_zero]
        rfl
      _ = 2 ^ Int.log 2 |x| := by
        rw [add_sub_cancel]
      _ ≤ |x| := Int.zpow_log_le_self one_lt_two (abs_pos.mpr nonzero)
  · right
    rw [max_eq_right small, lastPlace]

theorem gridStep_eq_of_mem {x : ℝ} {exponent : ℤ} (normal : -1022 ≤ exponent)
    (lower : 2 ^ exponent ≤ x) (upper : x < 2 ^ (exponent + 1)) :
    gridStep x = 2 ^ (exponent - 52) := by
  have positive : 0 < x := (zpow_pos two_pos _).trans_le lower
  have least : exponent ≤ Int.log 2 x := (Int.zpow_le_iff_le_log one_lt_two positive).mp lower
  have greatest : Int.log 2 x < exponent + 1 :=
    (Int.lt_zpow_iff_log_lt one_lt_two positive).mp upper
  rw [gridStep, gridExponent, abs_of_pos positive]
  congr 1
  omega

theorem gridStep_mono {x y : ℝ} (positive : 0 < x) (ordered : x ≤ y) : gridStep x ≤ gridStep y := by
  apply zpow_le_zpow_right₀ one_le_two
  have larger := Int.log_mono_right (b := 2) positive ordered
  rw [gridExponent, gridExponent, abs_of_pos positive, abs_of_pos (positive.trans_le ordered)]
  omega

theorem lastPlace_le_gridStep (x : ℝ) : lastPlace ≤ gridStep x :=
  zpow_le_zpow_right₀ one_le_two (le_max_right _ _)

/-- Multiples of the spacing about a number that are not far above it are representable. -/
theorem representable_mul_gridStep {n : ℤ} (short : |n| ≤ 2 ^ 53) (x : ℝ) :
    Representable (n * gridStep x) :=
  ⟨n, gridExponent x, short, le_max_right _ _, rfl⟩

/-- A representable number is a multiple of the spacing, or no greater than where a bit of the
significand is lost. -/
theorem exists_mul_gridStep_or_abs_le {y : ℝ} (representable : Representable y) {x : ℝ}
    (nonzero : x ≠ 0) :
    (∃ n : ℤ, y = n * gridStep x) ∨ |y| ≤ 2 ^ 52 * gridStep x ∧ 2 ^ 52 * gridStep x ≤ |x| := by
  obtain ⟨significand, exponent, short, low, rfl⟩ := representable
  rcases le_or_gt (gridExponent x) exponent with coarse | fine
  · left
    refine ⟨significand * 2 ^ (exponent - gridExponent x).toNat, ?_⟩
    have split : (2 : ℝ) ^ exponent =
        2 ^ (exponent - gridExponent x).toNat * 2 ^ gridExponent x := by
      rw [← zpow_natCast, ← zpow_add₀ two_ne_zero]
      congr 1
      omega
    rw [split, gridStep]
    push_cast
    ring
  · right
    have leading := (gridStep_le_abs_or_eq nonzero).resolve_right fun last => by
      have exponents : gridExponent x = -1074 :=
        zpow_right_injective₀ two_pos (by norm_num) last
      omega
    refine ⟨?_, leading⟩
    have bits : |(significand : ℝ)| ≤ 2 ^ 53 := by exact_mod_cast short
    have place : (2 : ℝ) ^ exponent ≤ 2 ^ (gridExponent x - 1) :=
      zpow_le_zpow_right₀ one_le_two (by omega)
    have halved : (2 : ℝ) ^ (gridExponent x - 1) = gridStep x / 2 := by
      rw [zpow_sub_one₀ two_ne_zero, gridStep, div_eq_mul_inv]
    have positive : (0 : ℝ) < 2 ^ exponent := zpow_pos two_pos _
    calc
      |(significand : ℝ) * 2 ^ exponent| = |(significand : ℝ)| * 2 ^ exponent := by
        rw [abs_mul, abs_of_pos positive]
      _ ≤ 2 ^ 53 * (gridStep x / 2) := by
        rw [← halved]
        exact mul_le_mul bits place positive.le (by positivity)
      _ = 2 ^ 52 * gridStep x := by ring

/-- Away from zero the representable numbers are multiples of the spacing. -/
theorem exists_mul_gridStep_of_le {x y : ℝ} (representable : Representable y) (nonzero : x ≠ 0)
    (further : |x| ≤ |y|) : ∃ n : ℤ, y = n * gridStep x := by
  rcases exists_mul_gridStep_or_abs_le representable nonzero with multiple | ⟨small, large⟩
  · exact multiple
  · have equal : |y| = 2 ^ 52 * gridStep x := le_antisymm small (large.trans further)
    rcases abs_choice y with same | opposite
    · exact ⟨2 ^ 52, by push_cast; linarith⟩
    · exact ⟨-2 ^ 52, by push_cast; linarith⟩

theorem representable_add_gridStep {x : ℝ} (representable : Representable x) (positive : 0 < x) :
    Representable (x + gridStep x) := by
  obtain ⟨n, multiple⟩ := exists_mul_gridStep_of_le representable positive.ne' le_rfl
  have step := gridStep_pos x
  have short := abs_lt_gridStep x
  have above : 0 < n := by
    by_contra none
    rw [not_lt] at none
    have cast : (n : ℝ) ≤ 0 := by exact_mod_cast none
    have := mul_nonpos_of_nonpos_of_nonneg cast step.le
    linarith
  have few : n < 2 ^ 53 := by
    rw [abs_of_pos positive] at short
    have cast : (n : ℝ) < 2 ^ 53 := by
      rw [← mul_lt_mul_iff_left₀ step, ← multiple]
      exact short
    exact_mod_cast cast
  have next : x + gridStep x = ((n + 1 : ℤ) : ℝ) * gridStep x := by
    push_cast
    linarith
  rw [next]
  apply representable_mul_gridStep
  rw [abs_of_pos (by omega)]
  omega

/-- The next representable number is a spacing away. -/
theorem add_gridStep_le {x y : ℝ} (representable : Representable x)
    (representable' : Representable y) (positive : 0 < x) (below : x < y) : x + gridStep x ≤ y := by
  have step := gridStep_pos x
  have size : |x| ≤ |y| := by
    rw [abs_of_pos positive, abs_of_pos (positive.trans below)]
    exact below.le
  obtain ⟨n, multiple⟩ := exists_mul_gridStep_of_le representable positive.ne' le_rfl
  obtain ⟨n', multiple'⟩ := exists_mul_gridStep_of_le representable' positive.ne' size
  have fewer : n < n' := by
    have cast : (n : ℝ) < n' := by
      rw [← mul_lt_mul_iff_left₀ step, ← multiple, ← multiple']
      exact below
    exact_mod_cast cast
  have cast : (n : ℝ) + 1 ≤ n' := by exact_mod_cast fewer
  calc
    x + gridStep x = (n + 1) * gridStep x := by linarith
    _ ≤ n' * gridStep x := mul_le_mul_of_nonneg_right cast step.le
    _ = y := multiple'.symm

/-! ## Rounding -/

/-- The representable number nearest to a real number, a tie going to the even significand. -/
noncomputable def nearest (x : ℝ) : ℝ := nearestEven (x / gridStep x) * gridStep x

theorem representable_nearest (x : ℝ) : Representable (nearest x) := by
  apply representable_mul_gridStep
  have inside : |x / gridStep x| < 2 ^ 53 := by
    rw [abs_div, abs_of_pos (gridStep_pos x), div_lt_iff₀ (gridStep_pos x)]
    exact abs_lt_gridStep x
  have near := abs_nearestEven_sub_le_half (x / gridStep x)
  have bound : |(nearestEven (x / gridStep x) : ℝ)| < 2 ^ 53 + 1 := by
    have triangle := abs_sub_abs_le_abs_sub (nearestEven (x / gridStep x) : ℝ) (x / gridStep x)
    linarith
  have whole : |nearestEven (x / gridStep x)| < 2 ^ 53 + 1 := by exact_mod_cast bound
  omega

theorem abs_nearest_sub (x : ℝ) :
    |nearest x - x| = |(nearestEven (x / gridStep x) : ℝ) - x / gridStep x| * gridStep x := by
  have positive := gridStep_pos x
  have factored : nearest x - x =
      ((nearestEven (x / gridStep x) : ℝ) - x / gridStep x) * gridStep x := by
    rw [nearest, sub_mul, div_mul_cancel₀ _ positive.ne']
  rw [factored, abs_mul, abs_of_pos positive]

theorem abs_nearest_sub_le_gridStep (x : ℝ) : |nearest x - x| ≤ gridStep x / 2 := by
  rw [abs_nearest_sub]
  have scaled := mul_le_mul_of_nonneg_right (abs_nearestEven_sub_le_half (x / gridStep x))
    (gridStep_pos x).le
  linarith

theorem abs_nearest_sub_le_multiple (x : ℝ) (n : ℤ) :
    |nearest x - x| ≤ |n * gridStep x - x| := by
  have positive := gridStep_pos x
  have factored : n * gridStep x - x = (n - x / gridStep x) * gridStep x := by
    rw [sub_mul, div_mul_cancel₀ _ positive.ne']
  rw [abs_nearest_sub, factored, abs_mul, abs_of_pos positive]
  exact mul_le_mul_of_nonneg_right (abs_nearestEven_sub_le _ n) positive.le

@[simp]
theorem nearest_zero : nearest 0 = 0 := by
  have rounded : nearestEven (0 : ℝ) = 0 := by exact_mod_cast nearestEven_intCast 0
  rw [nearest, zero_div, rounded, Int.cast_zero, zero_mul]

/-- No representable number is nearer. -/
theorem abs_nearest_sub_le_abs_sub {y : ℝ} (representable : Representable y) (x : ℝ) :
    |nearest x - x| ≤ |y - x| := by
  rcases eq_or_ne x 0 with rfl | nonzero
  · rw [nearest_zero, sub_zero, abs_zero]
    exact abs_nonneg _
  rcases exists_mul_gridStep_or_abs_le representable nonzero with ⟨n, rfl⟩ | ⟨small, large⟩
  · exact abs_nearest_sub_le_multiple x n
  · -- Of the numbers on the grid of `x`, one lies between `y` and `x`: the least of their size.
    have between (n : ℤ) (sign : |n * gridStep x - x| = |x| - 2 ^ 52 * gridStep x) :
        |nearest x - x| ≤ |y - x| := by
      have near := abs_nearest_sub_le_multiple x n
      have apart := abs_sub_abs_le_abs_sub x y
      rw [abs_sub_comm x y] at apart
      linarith
    rcases abs_cases x with ⟨same, _⟩ | ⟨opposite, _⟩
    · refine between (2 ^ 52) ?_
      push_cast
      rw [abs_sub_comm, abs_of_nonneg (by linarith)]
      linarith
    · refine between (-2 ^ 52) ?_
      push_cast
      rw [abs_of_nonneg (by linarith)]
      linarith

theorem nearest_of_representable {x : ℝ} (representable : Representable x) : nearest x = x := by
  have none := abs_nearest_sub_le_abs_sub representable x
  rw [sub_self, abs_zero] at none
  exact sub_eq_zero.mp (abs_nonpos_iff.mp none)

theorem nearest_mono {x y : ℝ} (ordered : x ≤ y) : nearest x ≤ nearest y := by
  rcases eq_or_lt_of_le ordered with rfl | below
  · rfl
  · by_contra crossed
    rw [not_le] at crossed
    have left := abs_nearest_sub_le_abs_sub (representable_nearest y) x
    have right := abs_nearest_sub_le_abs_sub (representable_nearest x) y
    rw [← sq_le_sq] at left right
    nlinarith

theorem nearest_le_of_le {x y : ℝ} (representable : Representable y) (below : x ≤ y) :
    nearest x ≤ y := by
  rw [← nearest_of_representable representable]
  exact nearest_mono below

theorem le_nearest_of_le {x y : ℝ} (representable : Representable y) (above : y ≤ x) :
    y ≤ nearest x := by
  rw [← nearest_of_representable representable]
  exact nearest_mono above

theorem nearest_nonneg {x : ℝ} (nonneg : 0 ≤ x) : 0 ≤ nearest x :=
  le_nearest_of_le representable_zero nonneg

theorem abs_nearest_le_of_abs_le {x bound : ℝ} (representable : Representable bound)
    (inside : |x| ≤ bound) : |nearest x| ≤ bound := by
  rw [abs_le] at inside ⊢
  exact ⟨le_nearest_of_le representable.neg inside.1, nearest_le_of_le representable inside.2⟩

/-! ## Errors of rounding -/

/-- A part of the number, or half of the last place where that is more. -/
theorem abs_nearest_sub_le_max (x : ℝ) :
    |nearest x - x| ≤ max (2 ^ (-53 : ℤ) * |x|) (lastPlace / 2) := by
  rcases eq_or_ne x 0 with rfl | nonzero
  · rw [nearest_zero, sub_zero, abs_zero]
    exact le_max_of_le_right (half_pos lastPlace_pos).le
  have half := abs_nearest_sub_le_gridStep x
  rcases gridStep_le_abs_or_eq nonzero with large | last
  · apply le_max_of_le_left
    calc
      |nearest x - x| ≤ gridStep x / 2 := half
      _ = 2 ^ (-53 : ℤ) * (2 ^ 52 * gridStep x) := by
        norm_num
        ring
      _ ≤ 2 ^ (-53 : ℤ) * |x| := mul_le_mul_of_nonneg_left large (zpow_nonneg two_pos.le _)
  · apply le_max_of_le_right
    rwa [last] at half

theorem abs_nearest_sub_le (x : ℝ) :
    |nearest x - x| ≤ 2 ^ (-53 : ℤ) * |x| + lastPlace / 2 := by
  have relative : (0 : ℝ) ≤ 2 ^ (-53 : ℤ) * |x| :=
    mul_nonneg (zpow_nonneg two_pos.le _) (abs_nonneg x)
  exact (abs_nearest_sub_le_max x).trans
    (max_le (le_add_of_nonneg_right (half_pos lastPlace_pos).le) (le_add_of_nonneg_left relative))

/-- Numbers with full precision keep all but a part of themselves. -/
theorem abs_nearest_sub_le_of_normal {x : ℝ} (normal : 2 ^ (-1022 : ℤ) ≤ |x|) :
    |nearest x - x| ≤ 2 ^ (-53 : ℤ) * |x| := by
  have last : lastPlace / 2 ≤ 2 ^ (-53 : ℤ) * |x| := by
    calc
      lastPlace / 2 = 2 ^ (-53 : ℤ) * 2 ^ (-1022 : ℤ) := lastPlace_div_two
      _ ≤ 2 ^ (-53 : ℤ) * |x| := mul_le_mul_of_nonneg_left normal (zpow_nonneg two_pos.le _)
  exact (abs_nearest_sub_le_max x).trans (max_le le_rfl last)

end WifiLink
