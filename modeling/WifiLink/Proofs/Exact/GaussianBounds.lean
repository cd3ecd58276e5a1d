import WifiLink.Proofs.Exact.GaussianTail

/-!
# Bounds on the complementary error function

From one point to the next the function falls by at least the quotient of the densities there,
and near zero its power series bounds it from both sides.
-/

namespace WifiLink

open MeasureTheory Set

/-! ## Decay -/

section Decay

/-- Relative to the density, what lies beyond a point depends on the distance from there. -/
theorem gaussianIntegral_mul_exp (x : ℝ) :
    gaussianIntegral x * Real.exp (x ^ 2) =
      2 / Real.sqrt Real.pi * ∫ s in Ioi (0 : ℝ), Real.exp (-(s ^ 2 + 2 * x * s)) := by
  have moved := (measurePreserving_add_right volume x).setIntegral_preimage_emb
    (measurableEmbedding_addRight x) (fun t => Real.exp (-1 * t ^ 2)) (Ioi x)
  rw [preimage_add_const_Ioi, sub_self] at moved
  rw [gaussianIntegral, ← moved, mul_assoc, ← integral_mul_const]
  congr 2 with s
  rw [← Real.exp_add]
  ring_nf

theorem integrableOn_exp_shifted {x : ℝ} (nonneg : 0 ≤ x) :
    IntegrableOn (fun s => Real.exp (-(s ^ 2 + 2 * x * s))) (Ioi 0) := by
  have dominating := (integrable_exp_neg_mul_sq one_pos).integrableOn (s := Ioi 0)
  refine Integrable.mono' dominating (by fun_prop) ?_
  refine (ae_restrict_mem measurableSet_Ioi).mono fun s positive => ?_
  have distance : 0 < s := positive
  rw [Real.norm_of_nonneg (Real.exp_pos _).le, Real.exp_le_exp]
  nlinarith [mul_nonneg nonneg distance.le]

theorem gaussianIntegral_le_exp_mul {x y : ℝ} (nonneg : 0 ≤ x) (farther : x ≤ y) :
    gaussianIntegral y ≤ Real.exp (x ^ 2 - y ^ 2) * gaussianIntegral x := by
  have relative : gaussianIntegral y * Real.exp (y ^ 2) ≤
      gaussianIntegral x * Real.exp (x ^ 2) := by
    rw [gaussianIntegral_mul_exp, gaussianIntegral_mul_exp]
    gcongr ?_ * ?_
    apply setIntegral_mono_on (integrableOn_exp_shifted (nonneg.trans farther))
      (integrableOn_exp_shifted nonneg) measurableSet_Ioi
    intro s positive
    have distance : 0 < s := positive
    gcongr
  rw [Real.exp_sub, div_mul_eq_mul_div, le_div_iff₀ (Real.exp_pos _)]
  linarith

end Decay

/-! ## The exponential function near zero -/

theorem integral_le_of_continuous
    {f g : ℝ → ℝ} {b : ℝ} (nonneg : 0 ≤ b) (continuous : Continuous f) (continuous' : Continuous g)
    (below : ∀ t, 0 ≤ t → f t ≤ g t) :
    ∫ t in (0 : ℝ)..b, f t ≤ ∫ t in (0 : ℝ)..b, g t :=
  intervalIntegral.integral_mono_on nonneg (continuous.intervalIntegrable _ _)
    (continuous'.intervalIntegrable _ _) fun t member => below t member.1

section Exponential

variable {x : ℝ} (nonneg : 0 ≤ x)
include nonneg

theorem exp_neg_le_quadratic : Real.exp (-x) ≤ 1 - x + x ^ 2 / 2 := by
  have above := Real.quadratic_le_exp_of_nonneg nonneg
  have product : 1 ≤ (1 - x + x ^ 2 / 2) * (1 + x + x ^ 2 / 2) := by
    nlinarith [pow_nonneg nonneg 4]
  have positive : 0 ≤ 1 - x + x ^ 2 / 2 := by
    nlinarith [sq_nonneg (1 - x)]
  rw [Real.exp_neg, inv_le_iff_one_le_mul₀ (Real.exp_pos x)]
  exact product.trans (mul_le_mul_of_nonneg_left above positive)

theorem cubic_le_exp_neg : 1 - x + x ^ 2 / 2 - x ^ 3 / 6 ≤ Real.exp (-x) := by
  have area : ∫ t in (0 : ℝ)..x, Real.exp (-t) ≤ ∫ t in (0 : ℝ)..x, (1 - t + t ^ 2 / 2) :=
    integral_le_of_continuous nonneg (by fun_prop) (by fun_prop) fun _ => exp_neg_le_quadratic
  have exponential : ∫ t in (0 : ℝ)..x, Real.exp (-t) = 1 - Real.exp (-x) := by
    rw [intervalIntegral.integral_comp_neg Real.exp, integral_exp, neg_zero, Real.exp_zero]
  have polynomial : ∫ t in (0 : ℝ)..x, (1 - t + t ^ 2 / 2) = x - x ^ 2 / 2 + x ^ 3 / 6 := by
    rw [intervalIntegral.integral_add, intervalIntegral.integral_sub]
    · simp [integral_pow]
      ring
    all_goals exact Continuous.intervalIntegrable (by fun_prop) _ _
  linarith

end Exponential

/-! ## The power series -/

section Series

theorem two_div_sqrt_pi_lt : 2 / Real.sqrt Real.pi < 1.1284 := by
  have root : 2 / 1.1284 < Real.sqrt Real.pi := by
    have pi := Real.pi_gt_d4
    rw [Real.lt_sqrt (by norm_num)]
    linarith
  rw [div_lt_comm₀ (by positivity) (by norm_num)]
  exact root

theorem lt_two_div_sqrt_pi : 1.128 < 2 / Real.sqrt Real.pi := by
  have root : Real.sqrt Real.pi < 2 / 1.128 := by
    have pi := Real.pi_lt_d4
    rw [Real.sqrt_lt' (by norm_num)]
    linarith
  rw [lt_div_comm₀ (by norm_num) (by positivity)]
  exact root

/-- What lies beyond a point is missing from what lies before it. -/
theorem gaussianIntegral_eq_one_sub (z : ℝ) :
    gaussianIntegral z =
      1 - 2 / Real.sqrt Real.pi * ∫ t in (0 : ℝ)..z, Real.exp (-t ^ 2) := by
  have integrable (x : ℝ) := (integrable_exp_neg_mul_sq one_pos).integrableOn (s := Ioi x)
  have parts := intervalIntegral.integral_interval_add_Ioi (integrable 0) (integrable z)
  have whole := gaussianIntegral_zero
  simp only [neg_one_mul] at parts
  simp only [gaussianIntegral, neg_one_mul] at whole ⊢
  rw [← parts, mul_add] at whole
  linarith

variable {z : ℝ} (nonneg : 0 ≤ z)
include nonneg

theorem le_gaussianIntegral :
    1 - 1.1284 * (z - z ^ 3 / 3 + z ^ 5 / 10) ≤ gaussianIntegral z := by
  have area : ∫ t in (0 : ℝ)..z, Real.exp (-t ^ 2) ≤
      ∫ t in (0 : ℝ)..z, (1 - t ^ 2 + (t ^ 2) ^ 2 / 2) :=
    integral_le_of_continuous nonneg (by fun_prop) (by fun_prop) fun t _ =>
      exp_neg_le_quadratic (sq_nonneg t)
  have polynomial : ∫ t in (0 : ℝ)..z, (1 - t ^ 2 + (t ^ 2) ^ 2 / 2) =
      z - z ^ 3 / 3 + z ^ 5 / 10 := by
    simp_rw [← pow_mul]
    rw [intervalIntegral.integral_add, intervalIntegral.integral_sub]
    · simp [integral_pow]
      ring
    all_goals exact Continuous.intervalIntegrable (by fun_prop) _ _
  have positive : 0 ≤ ∫ t in (0 : ℝ)..z, Real.exp (-t ^ 2) :=
    intervalIntegral.integral_nonneg nonneg fun t _ => (Real.exp_pos _).le
  rw [polynomial] at area
  rw [gaussianIntegral_eq_one_sub]
  have product := mul_le_mul two_div_sqrt_pi_lt.le area positive (by norm_num)
  linarith

theorem gaussianIntegral_le (small : z ≤ 1) :
    gaussianIntegral z ≤ 1 - 1.128 * (z - z ^ 3 / 3 + z ^ 5 / 10 - z ^ 7 / 42) := by
  have area : ∫ t in (0 : ℝ)..z, (1 - t ^ 2 + (t ^ 2) ^ 2 / 2 - (t ^ 2) ^ 3 / 6) ≤
      ∫ t in (0 : ℝ)..z, Real.exp (-t ^ 2) :=
    integral_le_of_continuous nonneg (by fun_prop) (by fun_prop) fun t _ =>
      cubic_le_exp_neg (sq_nonneg t)
  have polynomial : ∫ t in (0 : ℝ)..z, (1 - t ^ 2 + (t ^ 2) ^ 2 / 2 - (t ^ 2) ^ 3 / 6) =
      z - z ^ 3 / 3 + z ^ 5 / 10 - z ^ 7 / 42 := by
    simp_rw [← pow_mul]
    rw [intervalIntegral.integral_sub, intervalIntegral.integral_add,
      intervalIntegral.integral_sub]
    · simp [integral_pow]
      ring
    all_goals exact Continuous.intervalIntegrable (by fun_prop) _ _
  have positive : 0 ≤ z - z ^ 3 / 3 + z ^ 5 / 10 - z ^ 7 / 42 := by
    have cubes : z ^ 3 ≤ z := pow_le_of_le_one nonneg small (by decide)
    have powers : z ^ 7 ≤ z ^ 5 := pow_le_pow_of_le_one nonneg small (by decide)
    linarith [pow_nonneg nonneg 5]
  rw [polynomial] at area
  rw [gaussianIntegral_eq_one_sub]
  have product := mul_le_mul lt_two_div_sqrt_pi.le area positive (by positivity)
  linarith

end Series

end WifiLink
