import WifiLink.Proofs.BitError
import WifiLink.Proofs.Exact.GaussianBounds

/-!
# Bit error rates in Gaussian noise

A square constellation at the symbol energy of two points. The more points there are the closer
they lie, so that two points are better told apart as soon as the noise does not drown all of
them. In much noise the few bits of two points are lost more often than each of the many.
-/

namespace WifiLink

open Exact

variable {tail : ErrorTail}

/-! ## Square constellations -/

/-- The bit error rate of `4 ^ n` points where noise crosses a border with a probability. -/
noncomputable def squareShare (n : ℕ) (share : ℝ) : ℝ :=
  (1 - (1 - (1 - 1 / 2 ^ n) * share) ^ 2) / (2 * n)

/-- How much of a symbol's energy counts against the spacing of `4 ^ n` points. -/
noncomputable def spacing (n : ℕ) : ℝ := 3 / (2 * (4 ^ n - 1))

theorem exists_four_pow {size : Int} (member : size ∈ constellationSizes) (many : size ≠ 2) :
    ∃ n : ℕ, 0 < n ∧ n ≤ 6 ∧ size = 4 ^ n := by
  have all : ∀ size ∈ constellationSizes, size ≠ 2 →
      ∃ n ∈ List.range 7, 0 < n ∧ n ≤ 6 ∧ size = 4 ^ n := by
    decide
  obtain ⟨n, _, rest⟩ := all size member many
  exact ⟨n, rest⟩

section Square

variable {n : ℕ} (positive : 0 < n)

theorem logb_four_pow (n : ℕ) : Real.logb 2 (4 ^ n) = 2 * n := by
  have two : (4 : ℝ) ^ n = 2 ^ (2 * n) := by
    rw [pow_mul]
    norm_num
  rw [two, Real.logb_pow, Real.logb_self_eq_one one_lt_two]
  push_cast
  ring

theorem sideShare_four_pow (n : ℕ) : sideShare (4 ^ n) = 1 - 1 / 2 ^ n := by
  have square : (4 : ℝ) ^ n = (2 ^ n) ^ 2 := by
    rw [← pow_mul, mul_comm, pow_mul]
    norm_num
  rw [sideShare, Int.cast_pow, Int.cast_ofNat, square, Real.sqrt_sq (by positivity)]

include positive

theorem one_lt_four_pow : (1 : ℝ) < 4 ^ n :=
  one_lt_pow₀ (by norm_num) positive.ne'

theorem errorShare_four_pow (energy : ENNReal) :
    errorShare tail (4 ^ n) energy =
      squareShare n (tail (spacingEnergy (4 ^ n) energy ^ (1 / 2 : ℝ))) := by
  have many : (4 : Int) ^ n ≠ 2 := by
    have large : (4 : Int) ^ 1 ≤ 4 ^ n := pow_le_pow_right₀ (by norm_num) positive
    omega
  rw [errorShare, if_neg many, oneSidedShare, sideShare_four_pow, Int.cast_pow, Int.cast_ofNat,
    logb_four_pow, squareShare]

/-- The symbol's energy is shared among its bits, and all of them count. -/
theorem spacingEnergy_four_pow (x : ℝ) :
    spacingEnergy (4 ^ n) (ENNReal.ofReal x / ENNReal.ofReal (2 * n)) =
      ENNReal.ofReal (spacing n * x) := by
  have bits : (0 : ℝ) < 2 * n := by positivity
  have gap : (0 : ℝ) < 4 ^ n - 1 := sub_pos.mpr (one_lt_four_pow positive)
  rw [spacingEnergy, Int.cast_pow, Int.cast_ofNat, logb_four_pow,
    ← ENNReal.ofReal_div_of_pos bits, ← ENNReal.ofReal_mul (by positivity),
    ← ENNReal.ofReal_div_of_pos gap, spacing]
  congr 1
  field_simp

end Square

section Shares

variable {n : ℕ}

theorem side_mem (n : ℕ) : (0 : ℝ) ≤ 1 - 1 / 2 ^ n ∧ (1 : ℝ) - 1 / 2 ^ n ≤ 1 := by
  have inverse : (1 : ℝ) / 2 ^ n ≤ 1 := (div_le_one (by positivity)).mpr (one_le_pow₀ one_le_two)
  have positive : (0 : ℝ) ≤ 1 / 2 ^ n := by positivity
  constructor <;> linarith

theorem squareShare_mono {share share' : ℝ} (fewer : share ≤ share') (le_one : share' ≤ 1) :
    squareShare n share ≤ squareShare n share' := by
  obtain ⟨nonneg, side⟩ := side_mem n
  have most : (1 - 1 / 2 ^ n) * share' ≤ 1 := by
    nlinarith
  have ordered : (1 - 1 / 2 ^ n) * share ≤ (1 - 1 / 2 ^ n) * share' := by
    gcongr
  have squares : (1 - (1 - 1 / 2 ^ n) * share') ^ 2 ≤ (1 - (1 - 1 / 2 ^ n) * share) ^ 2 :=
    pow_le_pow_left₀ (by linarith) (by linarith) 2
  unfold squareShare
  gcongr

/-- Decisions of both dimensions seldom go wrong together. -/
theorem mul_le_squareShare {share most : ℝ} (nonneg : 0 ≤ share) (le : share ≤ most) :
    (1 - 1 / 2 ^ n) * (2 - (1 - 1 / 2 ^ n) * most) / (2 * n) * share ≤ squareShare n share := by
  have side := (side_mem n).1
  rw [squareShare, div_mul_eq_mul_div]
  gcongr ?_ / _
  nlinarith [mul_nonneg (mul_nonneg side side) (mul_nonneg nonneg (sub_nonneg.mpr le))]

end Shares

/-! ## Gaussian noise -/

theorem gaussianTail_sqrt {x : ℝ} (nonneg : 0 ≤ x) :
    (gaussianTail (ENNReal.ofReal x ^ (1 / 2 : ℝ)) : ℝ) = gaussianIntegral (Real.sqrt x) := by
  rw [ENNReal.ofReal_rpow_of_nonneg nonneg one_half_pos.le, ← Real.sqrt_eq_rpow, gaussianTail,
    if_neg ENNReal.ofReal_ne_top]
  exact congrArg gaussianIntegral (ENNReal.toReal_ofReal (Real.sqrt_nonneg x))

theorem gaussianIntegral_sqrt_le
    {x : ℝ} (z : ℝ) (nonneg : 0 ≤ z) (small : z ≤ 1) (inside : z ^ 2 ≤ x) :
    gaussianIntegral (Real.sqrt x) ≤ 1 - 1.128 * (z - z ^ 3 / 3 + z ^ 5 / 10 - z ^ 7 / 42) :=
  (gaussianIntegral_antitone (Real.le_sqrt_of_sq_le inside)).trans
    (gaussianIntegral_le nonneg small)

theorem le_gaussianIntegral_sqrt {x : ℝ} (z : ℝ) (nonneg : 0 ≤ z) (beyond : x ≤ z ^ 2) :
    1 - 1.1284 * (z - z ^ 3 / 3 + z ^ 5 / 10) ≤ gaussianIntegral (Real.sqrt x) :=
  (le_gaussianIntegral nonneg).trans
    (gaussianIntegral_antitone ((Real.sqrt_le_left nonneg).mpr beyond))

/-- The bit error rate of two points at an energy per symbol. -/
noncomputable def pairShare (x : ℝ) : ℝ := 1 / 2 * gaussianIntegral (Real.sqrt x)

/-- The bit error rate of `4 ^ n` points at an energy per symbol. -/
noncomputable def gaussianShare (n : ℕ) (x : ℝ) : ℝ :=
  squareShare n (gaussianIntegral (Real.sqrt (spacing n * x)))

theorem errorShare_two_gaussian {x : ℝ} (nonneg : 0 ≤ x) :
    errorShare gaussianTail 2 (ENNReal.ofReal x) = pairShare x := by
  rw [errorShare, if_pos rfl, gaussianTail_sqrt nonneg, pairShare]

theorem pairShare_mem {x : ℝ} (nonneg : 0 ≤ x) : pairShare x ∈ Set.Icc 0 (1 / 2) := by
  have member : (2 : Int) ∈ constellationSizes := by decide
  rw [← errorShare_two_gaussian nonneg]
  exact ⟨errorShare_nonneg member _ _, errorShare_le_half member _ _⟩

theorem spacing_nonneg (n : ℕ) : 0 ≤ spacing n := by
  have gap : (0 : ℝ) ≤ 4 ^ n - 1 := sub_nonneg.mpr (one_le_pow₀ (by norm_num))
  unfold spacing
  positivity

section Comparison

variable {n : ℕ} (positive : 0 < n)
include positive

theorem spacing_le_half : spacing n ≤ 1 / 2 := by
  have large : (4 : ℝ) ^ 1 ≤ 4 ^ n := pow_le_pow_right₀ (by norm_num) positive
  rw [spacing, div_le_div_iff₀ (by linarith) two_pos]
  linarith

theorem errorShare_gaussian {x : ℝ} (nonneg : 0 ≤ x) :
    errorShare gaussianTail (4 ^ n) (ENNReal.ofReal x / ENNReal.ofReal (2 * n)) =
      gaussianShare n x := by
  rw [errorShare_four_pow positive, spacingEnergy_four_pow positive,
    gaussianTail_sqrt (mul_nonneg (spacing_nonneg n) nonneg), gaussianShare]

theorem gaussianShare_mem (bounded : n ≤ 6) {x : ℝ} (nonneg : 0 ≤ x) :
    gaussianShare n x ∈ Set.Icc 0 (1 / 2) := by
  have member : (4 : Int) ^ n ∈ constellationSizes := by
    interval_cases n <;> decide
  rw [← errorShare_gaussian positive nonneg]
  exact ⟨errorShare_nonneg member _ _, errorShare_le_half member _ _⟩

/-- Two points are better told apart when what their distance gains makes up for the share of a
bit in more points. -/
theorem pairShare_le_gaussianShare
    {x : ℝ} (gain most : ℝ) (nonneg : 0 ≤ x)
    (decay : Real.exp (-((1 - spacing n) * x)) ≤ gain)
    (few : gaussianIntegral (Real.sqrt (spacing n * x)) ≤ most)
    (enough : gain ≤ 2 * ((1 - 1 / 2 ^ n) * (2 - (1 - 1 / 2 ^ n) * most) / (2 * n))) :
    pairShare x ≤ gaussianShare n x := by
  have side := spacing_nonneg n
  have half := spacing_le_half positive
  have near : spacing n * x ≤ x := mul_le_of_le_one_left nonneg (by linarith)
  have share := gaussianIntegral_nonneg (Real.sqrt (spacing n * x))
  have closer := gaussianIntegral_le_exp_mul (Real.sqrt_nonneg _) (Real.sqrt_le_sqrt near)
  rw [Real.sq_sqrt (mul_nonneg side nonneg), Real.sq_sqrt nonneg,
    show spacing n * x - x = -((1 - spacing n) * x) by ring] at closer
  calc
    pairShare x ≤ 1 / 2 * (gain * gaussianIntegral (Real.sqrt (spacing n * x))) := by
      unfold pairShare
      gcongr
      exact closer.trans (mul_le_mul_of_nonneg_right decay share)
    _ ≤ (1 - 1 / 2 ^ n) * (2 - (1 - 1 / 2 ^ n) * most) / (2 * n) *
        gaussianIntegral (Real.sqrt (spacing n * x)) := by
      rw [← mul_assoc]
      gcongr
      linarith
    _ ≤ gaussianShare n x := mul_le_squareShare share few

end Comparison

/-- A bound on the bit error rate from a point that lies beyond all the borders. -/
theorem le_gaussianShare
    {n : ℕ} {x loudest bound : ℝ} (noisy : x ≤ loudest) (z : ℝ) (nonneg : 0 ≤ z)
    (beyond : spacing n * loudest ≤ z ^ 2)
    (enough : bound ≤ squareShare n (1 - 1.1284 * (z - z ^ 3 / 3 + z ^ 5 / 10))) :
    bound ≤ gaussianShare n x := by
  have less := (mul_le_mul_of_nonneg_left noisy (spacing_nonneg n)).trans beyond
  have le_one : gaussianIntegral (Real.sqrt (spacing n * x)) ≤ 1 :=
    (gaussianIntegral_mem (Real.sqrt_nonneg _)).2
  exact enough.trans (squareShare_mono (le_gaussianIntegral_sqrt z nonneg less) le_one)

/-! ## Where which points are told apart -/

section Numbers

variable {x : ℝ}

theorem pairShare_le (loud : 3 / 8 ≤ x) : pairShare x ≤ 97 / 500 := by
  have series := @gaussianIntegral_sqrt_le x 0.612 (by norm_num) (by norm_num) (by linarith)
  norm_num at series
  unfold pairShare
  linarith

theorem exp_neg_le_of_series {bound : ℝ} (y : ℝ) (nonneg : 0 ≤ y) (less : y ≤ x)
    (bounded : 0 ≤ bound) (enough : 1 ≤ bound * ∑ i ∈ Finset.range 5, y ^ i / i.factorial) :
    Real.exp (-x) ≤ bound := by
  have series := (Real.sum_le_exp_of_nonneg nonneg 5).trans (Real.exp_le_exp.mpr less)
  rw [Real.exp_neg, inv_le_iff_one_le_mul₀ (Real.exp_pos x)]
  exact enough.trans (mul_le_mul_of_nonneg_left series bounded)

theorem spacing_one : spacing 1 = 1 / 2 := by norm_num [spacing]

theorem spacing_two : spacing 2 = 1 / 10 := by norm_num [spacing]

theorem spacing_le_of_many {n : ℕ} (many : 3 ≤ n) : spacing n ≤ 1 / 42 := by
  have large : (4 : ℝ) ^ 3 ≤ 4 ^ n := pow_le_pow_right₀ (by norm_num) many
  rw [spacing, div_le_div_iff₀ (by linarith) (by norm_num)]
  linarith

theorem pairShare_le_four (loud : 3 / 8 ≤ x) : pairShare x ≤ gaussianShare 1 x := by
  have series := @gaussianIntegral_sqrt_le (spacing 1 * x) 0.433 (by norm_num) (by norm_num)
    (by rw [spacing_one]; linarith)
  norm_num at series
  apply pairShare_le_gaussianShare one_pos (43 / 50) (14 / 25) (by linarith)
  · apply exp_neg_le_of_series (3 / 16) (by norm_num) (by rw [spacing_one]; linarith)
    · norm_num
    · norm_num [Finset.sum_range_succ, Nat.factorial]
  · linarith
  · norm_num

/-- In much noise two points are wrong too often, in little noise they are far enough apart. -/
theorem pairShare_le_sixteen (loud : 3 / 8 ≤ x) : pairShare x ≤ gaussianShare 2 x := by
  rcases le_total x (7 / 10) with noisy | clear
  · apply (pairShare_le loud).trans
    exact le_gaussianShare noisy 0.2646 (by norm_num) (by norm_num [spacing])
      (by norm_num [squareShare])
  · have series := @gaussianIntegral_sqrt_le (spacing 2 * x) 0.2645 (by norm_num) (by norm_num)
      (by rw [spacing_two]; linarith)
    norm_num at series
    apply pairShare_le_gaussianShare two_pos (219 / 400) (18 / 25) (by linarith)
    · apply exp_neg_le_of_series (63 / 100) (by norm_num) (by rw [spacing_two]; linarith)
      · norm_num
      · norm_num [Finset.sum_range_succ, Nat.factorial]
    · linarith
    · norm_num

theorem pairShare_le_many {n : ℕ} (many : 3 ≤ n) (bounded : n ≤ 6) (clear : 2 ≤ x) :
    pairShare x ≤ gaussianShare n x := by
  have near := spacing_le_of_many many
  apply pairShare_le_gaussianShare (by omega) (4 / 25) 1 (by linarith)
  · apply exp_neg_le_of_series (39 / 20) (by norm_num) (by nlinarith)
    · norm_num
    · norm_num [Finset.sum_range_succ, Nat.factorial]
  · exact (gaussianIntegral_mem (Real.sqrt_nonneg _)).2
  · interval_cases n <;> norm_num

/-! ## In much noise -/

theorem le_sixtyFour_of_noisy (noisy : x ≤ 2) : 147 / 1000 ≤ gaussianShare 3 x :=
  le_gaussianShare noisy 0.2183 (by norm_num) (by norm_num [spacing]) (by norm_num [squareShare])

/-- With a point beyond the borders of each of the largest constellations. -/
theorem le_many_of_noisy {n : ℕ} (many : 4 ≤ n) (bounded : n ≤ 6) (noisy : x ≤ 2) :
    83 / 1000 ≤ gaussianShare n x := by
  interval_cases n
  · exact le_gaussianShare noisy 0.1085 (by norm_num) (by norm_num [spacing])
      (by norm_num [squareShare])
  · exact le_gaussianShare noisy 0.05416 (by norm_num) (by norm_num [spacing])
      (by norm_num [squareShare])
  · exact le_gaussianShare noisy 0.02707 (by norm_num) (by norm_num [spacing])
      (by norm_num [squareShare])

theorem le_few_of_drowned {n : ℕ} (positive : 0 < n) (few : n ≤ 3) (drowned : x ≤ 3 / 8) :
    3 / 20 ≤ gaussianShare n x := by
  interval_cases n
  · exact le_gaussianShare drowned 0.4331 (by norm_num) (by norm_num [spacing])
      (by norm_num [squareShare])
  · exact le_gaussianShare drowned 0.1937 (by norm_num) (by norm_num [spacing])
      (by norm_num [squareShare])
  · exact le_gaussianShare drowned 0.0945 (by norm_num) (by norm_num [spacing])
      (by norm_num [squareShare])

theorem le_twoHundredFiftySix_of_drowned (drowned : x ≤ 3 / 8) :
    3 / 25 ≤ gaussianShare 4 x :=
  le_gaussianShare drowned 0.047 (by norm_num) (by norm_num [spacing]) (by norm_num [squareShare])

end Numbers

end WifiLink
