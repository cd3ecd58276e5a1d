import WifiLink.Proofs.Exact.Basic

/-!
# The complementary error function itself

Twice the share of a Gaussian density beyond a point. It is antitone, one at zero and zero at
infinity, so what is shown for every antitone map holds of it.
-/

namespace WifiLink

open MeasureTheory Set

/-- The complementary error function on the real numbers. -/
noncomputable def gaussianIntegral (x : ℝ) : ℝ :=
  2 / Real.sqrt Real.pi * ∫ t in Ioi x, Real.exp (-1 * t ^ 2)

theorem gaussianIntegral_zero : gaussianIntegral 0 = 1 := by
  have root : Real.sqrt Real.pi ≠ 0 := (Real.sqrt_pos.mpr Real.pi_pos).ne'
  rw [gaussianIntegral, integral_gaussian_Ioi, div_one]
  field_simp

theorem gaussianIntegral_antitone : Antitone gaussianIntegral := by
  intro x y below
  have integrable := (integrable_exp_neg_mul_sq one_pos).integrableOn (s := Ioi x)
  have smaller := setIntegral_mono_set integrable
    (Filter.Eventually.of_forall fun t => (Real.exp_pos _).le)
    (Ioi_subset_Ioi below).eventuallyLE
  exact mul_le_mul_of_nonneg_left smaller (by positivity)

theorem gaussianIntegral_nonneg (x : ℝ) : 0 ≤ gaussianIntegral x :=
  mul_nonneg (by positivity) (integral_nonneg fun t => (Real.exp_pos _).le)

theorem gaussianIntegral_mem {x : ℝ} (nonneg : 0 ≤ x) :
    gaussianIntegral x ∈ Icc 0 1 := by
  refine ⟨gaussianIntegral_nonneg x, ?_⟩
  rw [← gaussianIntegral_zero]
  exact gaussianIntegral_antitone nonneg

/-- The complementary error function from zero to infinity. -/
noncomputable def gaussianTail : ErrorTail := fun x =>
  if x = ⊤ then 0 else ⟨gaussianIntegral x.toReal, gaussianIntegral_mem ENNReal.toReal_nonneg⟩

theorem gaussianTail_top : gaussianTail ⊤ = 0 :=
  if_pos rfl

theorem gaussianTail_zero : gaussianTail 0 = 1 := by
  rw [gaussianTail, if_neg ENNReal.zero_ne_top]
  exact Subtype.ext gaussianIntegral_zero

theorem gaussianTail_antitone : Antitone gaussianTail := by
  intro x y below
  by_cases unbounded : y = ⊤
  · rw [unbounded, gaussianTail_top]
    exact unitInterval.nonneg'
  · have bounded : x ≠ ⊤ := ne_top_of_le_ne_top unbounded below
    rw [gaussianTail, gaussianTail, if_neg unbounded, if_neg bounded]
    exact gaussianIntegral_antitone (ENNReal.toReal_mono unbounded below)

end WifiLink
