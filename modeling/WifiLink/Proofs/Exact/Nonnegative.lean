import WifiLink.Proofs.Exact.Basic

/-!
# The numbers from zero to infinity

Signal-to-noise ratios and energies are exact numbers that are not below zero. They are
the extended nonnegative reals, and on those the complementary error function is defined.
-/

namespace WifiLink.Exact

variable {tail : ErrorTail}

/-- An extended nonnegative real as an exact number. -/
noncomputable def extend (x : ENNReal) : Exact tail :=
  if x = ⊤ then infinite false else finite x.toReal

@[simp]
theorem extend_top : (extend ⊤ : Exact tail) = infinite false :=
  if_pos rfl

theorem extend_of_ne_top {x : ENNReal} (real : x ≠ ⊤) :
    (extend x : Exact tail) = finite x.toReal :=
  if_neg real

theorem extend_zero : (extend 0 : Exact tail) = finite 0 := by
  rw [extend_of_ne_top ENNReal.zero_ne_top, ENNReal.toReal_zero]

theorem extend_eq_infinite_iff (x : ENNReal) :
    (extend x : Exact tail) = infinite false ↔ x = ⊤ := by
  constructor
  · intro unbounded
    by_contra real
    rw [extend_of_ne_top real] at unbounded
    cases unbounded
  · rintro rfl
    exact extend_top

theorem finite_eq_extend {x : ℝ} (nonneg : 0 ≤ x) :
    (finite x : Exact tail) = extend (ENNReal.ofReal x) := by
  rw [extend_of_ne_top ENNReal.ofReal_ne_top, ENNReal.toReal_ofReal nonneg]

/-- What is not below zero is an extended nonnegative real. -/
theorem exists_extend_of_nonneg {x : Exact tail} (nonneg : finite 0 ≤ x) :
    ∃ value : ENNReal, x = extend value := by
  cases x with
  | finite value => exact ⟨ENNReal.ofReal value, finite_eq_extend nonneg⟩
  | infinite negative =>
      have positive : negative = false := nonneg
      exact ⟨⊤, by rw [extend_top, positive]⟩
  | notANumber => exact nonneg.elim

/-- What is not at most zero is above it, or no number. -/
theorem exists_extend_of_not_nonpos {x : Exact tail} (above : ¬x ≤ finite 0) :
    x = notANumber ∨ ∃ value : ENNReal, 0 < value ∧ x = extend value := by
  cases x with
  | finite value =>
      have positive : 0 < value := not_le.mp above
      exact Or.inr ⟨ENNReal.ofReal value, ENNReal.ofReal_pos.mpr positive,
        finite_eq_extend positive.le⟩
  | infinite negative =>
      have positive : negative = false := Bool.eq_false_iff.mpr above
      exact Or.inr ⟨⊤, ENNReal.coe_lt_top, by rw [extend_top, positive]⟩
  | notANumber => exact Or.inl rfl

theorem exists_extend_of_pos {x : Exact tail} (positive : finite 0 < x) :
    ∃ value : ENNReal, 0 < value ∧ x = extend value := by
  cases x with
  | finite value =>
      have above : 0 < value := positive
      exact ⟨ENNReal.ofReal value, ENNReal.ofReal_pos.mpr above, finite_eq_extend above.le⟩
  | infinite negative =>
      have loud : negative = false := positive
      exact ⟨⊤, ENNReal.zero_lt_top, by rw [extend_top, loud]⟩
  | notANumber => exact positive.elim

@[simp]
theorem extend_le_extend (x y : ENNReal) :
    (extend x : Exact tail) ≤ extend y ↔ x ≤ y := by
  induction x with
  | top =>
      induction y with
      | top => exact iff_of_true (Or.inr rfl) le_rfl
      | coe y =>
          rw [extend_top, extend_of_ne_top ENNReal.coe_ne_top]
          exact iff_of_false Bool.false_ne_true (not_le.mpr ENNReal.coe_lt_top)
  | coe x =>
      induction y with
      | top =>
          rw [extend_top, extend_of_ne_top ENNReal.coe_ne_top]
          exact iff_of_true rfl le_top
      | coe y =>
          simp [extend_of_ne_top]

theorem extend_injective : Function.Injective (extend : ENNReal → Exact tail) := by
  intro x y equal
  have forward : (extend x : Exact tail) ≤ extend y := by
    rw [equal, extend_le_extend]
  have backward : (extend y : Exact tail) ≤ extend x := by
    rw [equal, extend_le_extend]
  exact le_antisymm ((extend_le_extend x y).mp forward) ((extend_le_extend y x).mp backward)

theorem extend_ne_notANumber (x : ENNReal) : (extend x : Exact tail) ≠ notANumber := by
  intro equal
  have reflexive := (@extend_le_extend tail x x).mpr le_rfl
  rw [equal] at reflexive
  exact not_notANumber_le _ reflexive

theorem zero_le_extend (x : ENNReal) : (finite 0 : Exact tail) ≤ extend x := by
  rw [← extend_zero, extend_le_extend]
  exact bot_le

theorem extend_nonpos_iff (x : ENNReal) :
    (extend x : Exact tail) ≤ finite 0 ↔ x = 0 := by
  rw [← extend_zero, extend_le_extend, nonpos_iff_eq_zero]

theorem extend_pos {x : ENNReal} (positive : 0 < x) : (finite 0 : Exact tail) < extend x := by
  induction x with
  | top =>
      rw [extend_top]
      rfl
  | coe x =>
      rw [extend_of_ne_top ENNReal.coe_ne_top, finite_lt_finite]
      exact ENNReal.toReal_pos positive.ne' ENNReal.coe_ne_top

theorem finite_pos_of_eq_extend
    {x : ℝ} {value : ENNReal} (positive : 0 < value)
    (equal : (finite x : Exact tail) = extend value) :
    0 < x := by
  by_contra nonpos
  have below : (finite x : Exact tail) ≤ finite 0 := not_lt.mp nonpos
  rw [equal, extend_nonpos_iff] at below
  exact positive.ne' below

theorem isNaN_extend (x : ENNReal) : Scalar.isNaN (extend x : Exact tail) = false := by
  rw [Scalar.isNaN, decide_eq_true ((extend_le_extend x x).mpr le_rfl)]
  rfl

theorem not_extend_lt_zero (x : ENNReal) : ¬(extend x : Exact tail) < finite 0 := by
  induction x with
  | top =>
      rw [extend_top]
      exact Bool.false_ne_true
  | coe x =>
      rw [extend_of_ne_top ENNReal.coe_ne_top, finite_lt_finite]
      exact not_lt.mpr ENNReal.toReal_nonneg

/-- The check that ratios go through leaves just the extended nonnegative reals. -/
theorem not_refusable_iff (x : Exact tail) :
    ¬(Scalar.isNaN x ∨ x < 0.0) ↔ ∃ value : ENNReal, x = extend value := by
  rw [zero_eq_finite]
  constructor
  · intro passed
    rw [not_or] at passed
    apply exists_extend_of_nonneg
    cases x with
    | finite value =>
        rw [finite_lt_finite, not_lt] at passed
        exact passed.2
    | infinite negative => exact Bool.eq_false_iff.mpr passed.2
    | notANumber => exact absurd (by simp [Scalar.isNaN, not_notANumber_le]) passed.1
  · rintro ⟨value, rfl⟩
    rw [not_or, isNaN_extend]
    exact ⟨Bool.false_ne_true, not_extend_lt_zero value⟩

theorem nonneg_iff_not_refusable (x : Exact tail) :
    0.0 ≤ x ↔ ¬(Scalar.isNaN x ∨ x < 0.0) := by
  rw [not_refusable_iff, zero_eq_finite]
  constructor
  · exact exists_extend_of_nonneg
  · rintro ⟨value, rfl⟩
    exact zero_le_extend value

theorem stretch_of_pos {x : ℝ} (positive : 0 < x) :
    (stretch false x : Exact tail) = infinite false := by
  rw [stretch, if_neg positive.ne', decide_eq_false (not_lt.mpr positive.le)]
  rfl

/-- Zero and infinity have no product; all else multiplies as it does in the reals. -/
theorem extend_mul_extend
    {x y : ENNReal} (left : x ≠ 0 ∨ y ≠ ⊤) (right : x ≠ ⊤ ∨ y ≠ 0) :
    (extend x : Exact tail) * extend y = extend (x * y) := by
  induction x with
  | top =>
      have nonzero : y ≠ 0 := right.resolve_left (· rfl)
      rw [ENNReal.top_mul nonzero, extend_top]
      induction y with
      | top => rfl
      | coe y =>
          rw [extend_of_ne_top ENNReal.coe_ne_top]
          exact stretch_of_pos (ENNReal.toReal_pos nonzero ENNReal.coe_ne_top)
  | coe x =>
      induction y with
      | top =>
          have nonzero : (x : ENNReal) ≠ 0 := left.resolve_right (· rfl)
          rw [ENNReal.mul_top nonzero, extend_top, extend_of_ne_top ENNReal.coe_ne_top]
          exact stretch_of_pos (ENNReal.toReal_pos nonzero ENNReal.coe_ne_top)
      | coe y =>
          rw [← ENNReal.coe_mul]
          simp only [extend_of_ne_top ENNReal.coe_ne_top, ENNReal.coe_toReal, NNReal.coe_mul,
            finite_mul_finite]

theorem extend_zero_mul_extend_top :
    (extend 0 : Exact tail) * extend ⊤ = notANumber := by
  rw [extend_top, extend_zero]
  exact if_pos rfl

/-- Infinity over infinity is no number; all else is divided as in the reals. -/
theorem extend_div_extend
    {x y : ENNReal} (positive : 0 < y) (defined : x ≠ ⊤ ∨ y ≠ ⊤) :
    (extend x : Exact tail) / extend y = extend (x / y) := by
  induction y with
  | top =>
      have real : x ≠ ⊤ := defined.resolve_right (· rfl)
      rw [extend_top, ENNReal.div_top, extend_of_ne_top real, extend_zero]
      rfl
  | coe y =>
      have realPositive : 0 < (y : ℝ) := by
        exact_mod_cast ENNReal.coe_pos.mp positive
      rw [extend_of_ne_top (x := (y : ENNReal)) ENNReal.coe_ne_top, ENNReal.coe_toReal]
      induction x with
      | top =>
          rw [ENNReal.top_div_coe, extend_top]
          change infinite (false != decide ((y : ℝ) < 0)) = _
          rw [decide_eq_false (not_lt.mpr realPositive.le)]
          rfl
      | coe x =>
          rw [← ENNReal.coe_div (ENNReal.coe_pos.mp positive).ne']
          simp only [extend_of_ne_top ENNReal.coe_ne_top, ENNReal.coe_toReal, NNReal.coe_div,
            finite_div_finite _ realPositive.ne']

/-- A quotient by a real number determines what was divided. -/
theorem eq_extend_mul
    {x : Exact tail} {r : ℝ} (positive : 0 < r) {quotient : ENNReal}
    (equal : x / finite r = extend quotient) :
    x = extend (quotient * ENNReal.ofReal r) := by
  cases x with
  | finite value =>
      rw [finite_div_finite _ positive.ne'] at equal
      have nonneg := @zero_le_extend tail quotient
      rw [← equal, finite_le_finite, le_div_iff₀ positive, zero_mul] at nonneg
      rw [finite_eq_extend (div_nonneg nonneg positive.le)] at equal
      rw [← extend_injective equal, ← ENNReal.ofReal_mul (div_nonneg nonneg positive.le),
        div_mul_cancel₀ _ positive.ne', finite_eq_extend nonneg]
  | infinite negative =>
      have sign : (infinite negative / finite r : Exact tail) = infinite negative := by
        change infinite (negative != decide (r < 0)) = infinite negative
        rw [decide_eq_false (not_lt.mpr positive.le), Bool.bne_false]
      rw [sign] at equal
      have above := @zero_le_extend tail quotient
      rw [← equal] at above
      obtain rfl : negative = false := above
      obtain rfl : ⊤ = quotient := extend_injective (extend_top.trans equal)
      rw [ENNReal.top_mul (ENNReal.ofReal_pos.mpr positive).ne', extend_top]
  | notANumber =>
      rw [notANumber_div] at equal
      exact absurd equal.symm (extend_ne_notANumber quotient)

theorem extend_top_div_extend_top :
    (extend ⊤ : Exact tail) / extend ⊤ = notANumber := by
  rw [extend_top]
  rfl

@[simp]
theorem sqrt_extend (x : ENNReal) :
    Scalar.sqrt (extend x : Exact tail) = extend (x ^ (1 / 2 : ℝ)) := by
  induction x with
  | top =>
      rw [ENNReal.top_rpow_of_pos one_half_pos, extend_top]
      rfl
  | coe x =>
      rw [← ENNReal.coe_rpow_of_nonneg x one_half_pos.le, extend_of_ne_top ENNReal.coe_ne_top,
        extend_of_ne_top ENNReal.coe_ne_top]
      change Exact.sqrt _ = _
      simp [Exact.sqrt, Real.sqrt_eq_rpow]

@[simp]
theorem erfc_extend (x : ENNReal) :
    Scalar.erfc (extend x : Exact tail) = finite (tail x) := by
  induction x with
  | top =>
      rw [extend_top]
      rfl
  | coe x =>
      rw [extend_of_ne_top ENNReal.coe_ne_top]
      change Exact.erfc _ = _
      simp [Exact.erfc]

end WifiLink.Exact
