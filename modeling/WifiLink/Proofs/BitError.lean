import WifiLink.BitError
import WifiLink.Proofs.Exact.Nonnegative
import WifiLink.Proofs.Outcome

/-!
# Bit error rates in exact numbers

The energy per bit is an extended nonnegative real or, where zero meets infinity, no number. From
an energy every constellation has a bit error rate between zero and one half, and more energy
means fewer errors when the complementary error function is antitone.
-/

namespace WifiLink

open Exact

variable {tail : ErrorTail}

/-! ## Energy -/

/-- The energy per bit over the noise density. -/
noncomputable def energyRatio (snr width rate : ENNReal) : ENNReal :=
  snr * width * 1000000 / rate

theorem energyRatio_mono
    {snr snr' width rate rate' : ENNReal} (louder : snr ≤ snr') (slower : rate' ≤ rate) :
    energyRatio snr width rate ≤ energyRatio snr' width rate' := by
  unfold energyRatio
  gcongr

theorem energyRatio_top {width rate : ENNReal} (wide : width ≠ 0) (real : rate ≠ ⊤) :
    energyRatio ⊤ width rate = ⊤ := by
  rw [energyRatio, ENNReal.top_mul wide, ENNReal.top_mul (by norm_num),
    ENNReal.top_div_of_ne_top real]

section Energy

theorem million_eq_extend : (1e6 : Exact tail) = extend 1000000 := by
  have real : (1000000 : ENNReal) = ENNReal.ofReal 1000000 := by norm_num
  rw [real, ← finite_eq_extend (by norm_num), ofScientific_eq]
  norm_num

/-- The energy of numbers among which zero meets no infinity and no two infinities are divided. -/
theorem bitEnergyRatio_extend
    {s w r : ENNReal} (widthPositive : 0 < w) (ratePositive : 0 < r)
    (product : s ≠ 0 ∨ w ≠ ⊤) (quotient : s * w ≠ ⊤ ∨ r ≠ ⊤) :
    bitEnergyRatio (extend s : Exact tail) (extend w) (extend r) =
      .ok (extend (energyRatio s w r)) := by
  have scaled : s * w * 1000000 ≠ ⊤ ∨ r ≠ ⊤ :=
    quotient.imp_left fun real => ENNReal.mul_ne_top real (by norm_num)
  have wide := mt (@extend_nonpos_iff tail w).mp widthPositive.ne'
  have fast := mt (@extend_nonpos_iff tail r).mp ratePositive.ne'
  rw [bitEnergyRatio, if_neg ((not_refusable_iff _).mpr ⟨s, rfl⟩), zero_eq_finite, if_neg wide,
    if_neg fast, extend_mul_extend product (Or.inr widthPositive.ne'), million_eq_extend,
    extend_mul_extend (Or.inr (by norm_num)) (Or.inr (by norm_num)),
    extend_div_extend ratePositive scaled, energyRatio]

theorem bitEnergyRatio_finite {s w r : ℝ} (nonneg : 0 ≤ s) (wide : 0 < w) (fast : 0 < r) :
    bitEnergyRatio (finite s : Exact tail) (finite w) (finite r) =
      .ok (finite (s * w * 1000000 / r)) := by
  have million : (1e6 : Exact tail) = finite 1000000 := by norm_num
  have ratio : ¬(Scalar.isNaN (finite s : Exact tail) ∨ (finite s : Exact tail) < finite 0) := by
    rw [isNaN_finite, finite_lt_finite, not_or]
    exact ⟨Bool.false_ne_true, not_lt.mpr nonneg⟩
  have width : ¬(finite w : Exact tail) ≤ finite 0 := not_le.mpr wide
  have rate : ¬(finite r : Exact tail) ≤ finite 0 := not_le.mpr fast
  rw [bitEnergyRatio, zero_eq_finite, if_neg ratio, if_neg width, if_neg rate, million,
    finite_mul_finite, finite_mul_finite, finite_div_finite _ fast.ne']

theorem bitEnergyRatio_eq_quotient
    {snr width rate energy : Exact tail}
    (answered : bitEnergyRatio snr width rate = .ok energy) :
    ¬(Scalar.isNaN snr ∨ snr < 0.0) ∧ ¬width ≤ 0.0 ∧ ¬rate ≤ 0.0 ∧
      snr * width * 1e6 / rate = energy := by
  unfold bitEnergyRatio at answered
  split_ifs at answered with ratio narrow slow
  exact ⟨ratio, narrow, slow, Except.ok.inj answered⟩

/-- The energy is no number: width or rate is none, zero is multiplied by infinity, or infinity is
divided by infinity. -/
inductive EnergyMissing (snr width rate : Exact tail) : Prop
  | width : width = notANumber → EnergyMissing snr width rate
  | rate : rate = notANumber → EnergyMissing snr width rate
  | product : snr = finite 0 → width = infinite false → EnergyMissing snr width rate
  | quotient :
      snr = infinite false ∨ width = infinite false → rate = infinite false →
        EnergyMissing snr width rate

section Checked

variable {snr width rate : Exact tail} (ratio : ¬(Scalar.isNaN snr ∨ snr < 0.0))
  (wide : ¬width ≤ 0.0) (fast : ¬rate ≤ 0.0)
include ratio wide fast

theorem bitEnergyRatio_of_missing (missing : EnergyMissing snr width rate) :
    bitEnergyRatio snr width rate = .ok notANumber := by
  rw [bitEnergyRatio, if_neg ratio, if_neg wide, if_neg fast]
  obtain ⟨s, rfl⟩ := (not_refusable_iff snr).mp ratio
  rw [zero_eq_finite] at wide
  rcases exists_extend_of_not_nonpos wide with rfl | ⟨w, widthPositive, rfl⟩
  · rw [mul_notANumber, notANumber_mul, notANumber_div]
  by_cases product : s ≠ 0 ∨ w ≠ ⊤
  · rw [extend_mul_extend product (.inr widthPositive.ne')]
    cases missing with
    | width none => exact absurd none (extend_ne_notANumber w)
    | rate none => rw [none, div_notANumber]
    | product zero unbounded =>
        rw [← extend_zero] at zero
        exact absurd ((extend_eq_infinite_iff w).mp unbounded)
          (product.resolve_left (not_not.mpr (extend_injective zero)))
    | quotient unbounded fastest =>
        have scaled : s * w = ⊤ := by
          rw [extend_eq_infinite_iff, extend_eq_infinite_iff] at unbounded
          rcases unbounded with rfl | rfl
          · exact ENNReal.top_mul widthPositive.ne'
          · exact ENNReal.mul_top (product.resolve_right (not_not.mpr rfl))
        rw [scaled, million_eq_extend, extend_mul_extend (.inr (by norm_num)) (.inr (by norm_num)),
          ENNReal.top_mul (by norm_num), fastest, ← extend_top, extend_top_div_extend_top]
  · rw [not_or, not_not, not_not] at product
    rw [product.1, product.2, extend_zero_mul_extend_top, notANumber_mul, notANumber_div]

theorem exists_bitEnergyRatio_eq_extend (known : ¬EnergyMissing snr width rate) :
    ∃ s w r : ENNReal,
      0 < r ∧ snr = extend s ∧ width = extend w ∧ rate = extend r ∧
        bitEnergyRatio snr width rate = .ok (extend (energyRatio s w r)) := by
  obtain ⟨s, rfl⟩ := (not_refusable_iff snr).mp ratio
  rw [zero_eq_finite] at wide fast
  rcases exists_extend_of_not_nonpos wide with rfl | ⟨w, widthPositive, rfl⟩
  · exact absurd (.width rfl) known
  rcases exists_extend_of_not_nonpos fast with rfl | ⟨r, ratePositive, rfl⟩
  · exact absurd (.rate rfl) known
  have product : s ≠ 0 ∨ w ≠ ⊤ := by
    by_contra both
    rw [not_or, not_not, not_not] at both
    exact known (.product (by rw [both.1, extend_zero]) (by rw [both.2, extend_top]))
  have quotient : s * w ≠ ⊤ ∨ r ≠ ⊤ := by
    by_contra both
    rw [not_or, not_not, not_not] at both
    refine known (.quotient ?_ (by rw [both.2, extend_top]))
    rcases ENNReal.mul_eq_top.mp both.1 with ⟨_, unbounded⟩ | ⟨unbounded, _⟩
    · exact .inr (by rw [unbounded, extend_top])
    · exact .inl (by rw [unbounded, extend_top])
  exact ⟨s, w, r, ratePositive, rfl, rfl, rfl,
    bitEnergyRatio_extend widthPositive ratePositive product quotient⟩

end Checked

/-- An energy is that of extended nonnegative reals, or it is no number. -/
theorem bitEnergyRatio_eq_ok
    {snr width rate energy : Exact tail}
    (answered : bitEnergyRatio snr width rate = .ok energy) :
    energy = notANumber ∨
      ∃ s w r : ENNReal,
        0 < r ∧ snr = extend s ∧ width = extend w ∧ rate = extend r ∧
          energy = extend (energyRatio s w r) := by
  obtain ⟨ratio, wide, fast, _⟩ := bitEnergyRatio_eq_quotient answered
  by_cases missing : EnergyMissing snr width rate
  · left
    rw [bitEnergyRatio_of_missing ratio wide fast missing] at answered
    exact (Except.ok.inj answered).symm
  · right
    obtain ⟨s, w, r, positive, hs, hw, hr, known⟩ :=
      exists_bitEnergyRatio_eq_extend ratio wide fast missing
    rw [known] at answered
    exact ⟨s, w, r, positive, hs, hw, hr, (Except.ok.inj answered).symm⟩

theorem bitEnergyRatio_eq_extend
    {snr width rate : Exact tail} {energy : ENNReal}
    (known : bitEnergyRatio snr width rate = .ok (extend energy)) :
    ∃ s w r : ENNReal,
      0 < r ∧ snr = extend s ∧ width = extend w ∧ rate = extend r ∧
        energy = energyRatio s w r := by
  rcases bitEnergyRatio_eq_ok known with missing | ⟨s, w, r, positive, hs, hw, hr, equality⟩
  · exact absurd missing (extend_ne_notANumber energy)
  · exact ⟨s, w, r, positive, hs, hw, hr, extend_injective equality⟩

/-- At a multiple of the rate the energy is shared among as many times the bits. -/
theorem bitEnergyRatio_mul_rate
    {snr width : Exact tail} {factor r : ℝ} (positive : 0 < factor) {energy : ENNReal}
    (known : bitEnergyRatio snr width (finite r) = .ok (extend energy)) :
    bitEnergyRatio snr width (finite (factor * r)) =
      .ok (extend (energy / ENNReal.ofReal factor)) := by
  obtain ⟨ratio, narrow, slow, value⟩ := bitEnergyRatio_eq_quotient known
  have fast : 0 < r := by
    rw [finite_nonpos_iff] at slow
    exact not_le.mp slow
  have faster : ¬(finite (factor * r) : Exact tail) ≤ 0.0 := by
    rw [finite_nonpos_iff]
    exact not_le.mpr (mul_pos positive fast)
  have nonzero : ENNReal.ofReal r ≠ 0 := (ENNReal.ofReal_pos.mpr fast).ne'
  rw [bitEnergyRatio, if_neg ratio, if_neg narrow, if_neg faster, eq_extend_mul fast value,
    finite_eq_extend (mul_pos positive fast).le,
    extend_div_extend (ENNReal.ofReal_pos.mpr (mul_pos positive fast))
      (Or.inr ENNReal.ofReal_ne_top),
    ENNReal.ofReal_mul positive.le, ENNReal.mul_div_mul_right _ _ nonzero ENNReal.ofReal_ne_top]

end Energy

/-! ## Error rates -/

/-- How often one dimension of a square constellation is decided wrongly by noise alone. -/
noncomputable def sideShare (size : Int) : ℝ := 1 - 1 / Real.sqrt size

/-- The energy per bit as it counts against the spacing of a square constellation. -/
noncomputable def spacingEnergy (size : Int) (energy : ENNReal) : ENNReal :=
  ENNReal.ofReal (3 / 2 * Real.logb 2 size) * energy / ENNReal.ofReal (size - 1)

/-- How often one dimension is decided wrongly. -/
noncomputable def oneSidedShare (tail : ErrorTail) (size : Int) (energy : ENNReal) : ℝ :=
  sideShare size * tail (spacingEnergy size energy ^ (1 / 2 : ℝ))

/-- The bit error rate of a constellation at an energy per bit. -/
noncomputable def errorShare (tail : ErrorTail) (size : Int) (energy : ENNReal) : ℝ :=
  if size = 2 then 1 / 2 * tail (energy ^ (1 / 2 : ℝ))
  else (1 - (1 - oneSidedShare tail size energy) ^ 2) / Real.logb 2 size

section ErrorShare

variable {size : Int} (member : size ∈ constellationSizes)
include member

theorem two_le_constellation : 2 ≤ size := by
  revert size
  decide

theorem four_le_constellation (many : size ≠ 2) : 4 ≤ size := by
  revert size
  decide

theorem two_le_bits (many : size ≠ 2) : 2 ≤ Real.logb 2 size := by
  have large : (4 : ℝ) ≤ size := by
    exact_mod_cast four_le_constellation member many
  rw [Real.le_logb_iff_rpow_le (by norm_num) (by linarith)]
  norm_num
  exact large

theorem sideShare_mem (many : size ≠ 2) :
    0 ≤ sideShare size ∧ sideShare size ≤ 1 := by
  have large : (4 : ℝ) ≤ size := by
    exact_mod_cast four_le_constellation member many
  have root : 1 ≤ Real.sqrt size := Real.one_le_sqrt.mpr (by linarith)
  have inverse : 1 / Real.sqrt size ≤ 1 := (div_le_one (by linarith)).mpr root
  have positive : 0 ≤ 1 / Real.sqrt size := by positivity
  unfold sideShare
  constructor <;> linarith

theorem oneSidedShare_mem (many : size ≠ 2) (tail : ErrorTail) (energy : ENNReal) :
    0 ≤ oneSidedShare tail size energy ∧ oneSidedShare tail size energy ≤ 1 := by
  obtain ⟨sideNonneg, sideLe⟩ := sideShare_mem member many
  have share := (tail (spacingEnergy size energy ^ (1 / 2 : ℝ))).2
  exact ⟨mul_nonneg sideNonneg share.1, mul_le_one₀ sideLe share.1 share.2⟩

theorem oneSidedShare_antitone
    (many : size ≠ 2) {tail : ErrorTail} (antitone : Antitone tail) :
    Antitone (oneSidedShare tail size) := by
  intro energy energy' more
  have spacing : spacingEnergy size energy ≤ spacingEnergy size energy' := by
    unfold spacingEnergy
    gcongr
  have root := ENNReal.rpow_le_rpow spacing one_half_pos.le
  exact mul_le_mul_of_nonneg_left (antitone root) (sideShare_mem member many).1

theorem errorShare_nonneg (tail : ErrorTail) (energy : ENNReal) :
    0 ≤ errorShare tail size energy := by
  unfold errorShare
  split_ifs with two
  · exact mul_nonneg one_half_pos.le (tail _).2.1
  · obtain ⟨sideNonneg, sideLe⟩ := oneSidedShare_mem member two tail energy
    have bits := two_le_bits member two
    have right : (1 - oneSidedShare tail size energy) ^ 2 ≤ 1 :=
      pow_le_one₀ (by linarith) (by linarith)
    exact div_nonneg (sub_nonneg.mpr right) (by linarith)

/-- Half of the bits are wrong at worst. -/
theorem errorShare_le_half (tail : ErrorTail) (energy : ENNReal) :
    errorShare tail size energy ≤ 1 / 2 := by
  unfold errorShare
  split_ifs with two
  · exact mul_le_of_le_one_right one_half_pos.le (tail _).2.2
  · have bits := two_le_bits member two
    have right : 0 ≤ (1 - oneSidedShare tail size energy) ^ 2 := sq_nonneg _
    exact div_le_div₀ zero_le_one (by linarith) two_pos bits

theorem errorShare_antitone {tail : ErrorTail} (antitone : Antitone tail) :
    Antitone (errorShare tail size) := by
  intro energy energy' more
  unfold errorShare
  split_ifs with two
  · have root := ENNReal.rpow_le_rpow more one_half_pos.le
    exact mul_le_mul_of_nonneg_left (antitone root) one_half_pos.le
  · have bits := two_le_bits member two
    have fewer := oneSidedShare_antitone member two antitone more
    have sideLe := (oneSidedShare_mem member two tail energy).2
    have squares :
        (1 - oneSidedShare tail size energy) ^ 2 ≤ (1 - oneSidedShare tail size energy') ^ 2 :=
      pow_le_pow_left₀ (by linarith) (by linarith) 2
    exact div_le_div_of_nonneg_right (by linarith) (by linarith)

/-- Where the tail vanishes at infinity, so do the errors. -/
theorem errorShare_top {tail : ErrorTail} (vanishing : tail ⊤ = 0) :
    errorShare tail size ⊤ = 0 := by
  unfold errorShare
  split_ifs with two
  · rw [ENNReal.top_rpow_of_pos one_half_pos, vanishing]
    norm_num
  · have bits := two_le_bits member two
    have factor : ENNReal.ofReal (3 / 2 * Real.logb 2 size) ≠ 0 :=
      (ENNReal.ofReal_pos.mpr (by linarith)).ne'
    rw [oneSidedShare, spacingEnergy, ENNReal.mul_top factor,
      ENNReal.top_div_of_ne_top ENNReal.ofReal_ne_top, ENNReal.top_rpow_of_pos one_half_pos,
      vanishing]
    norm_num

end ErrorShare

/-! ## The calculated rates -/

section Calculated

/-- The error rate of a square constellation from an energy. -/
theorem qamErrorOf_extend
    {size : Int} (member : size ∈ constellationSizes) (many : size ≠ 2) (energy : ENNReal) :
    qamErrorOf (finite size : Exact tail) (finite (Real.logb 2 size)) (extend energy) =
      .ok (finite (errorShare tail size energy)) := by
  have bits := two_le_bits member many
  have large : (4 : ℝ) ≤ size := by
    exact_mod_cast four_le_constellation member many
  have root : Real.sqrt size ≠ 0 := (Real.sqrt_pos.mpr (by linarith)).ne'
  have factor : (1.5 : Exact tail) * finite (Real.logb 2 size) =
      extend (ENNReal.ofReal (3 / 2 * Real.logb 2 size)) := by
    rw [← finite_eq_extend (by linarith), ofScientific_eq, finite_mul_finite]
    norm_num
  have factorPositive : ENNReal.ofReal (3 / 2 * Real.logb 2 size) ≠ 0 :=
    (ENNReal.ofReal_pos.mpr (by linarith)).ne'
  have spacing : (finite size : Exact tail) - 1.0 = extend (ENNReal.ofReal (size - 1)) := by
    rw [← finite_eq_extend (by linarith), one_eq_finite, finite_sub_finite]
  have argument :
      (1.5 : Exact tail) * finite (Real.logb 2 size) * extend energy / (finite size - 1.0) =
        extend (spacingEnergy size energy) := by
    rw [factor, spacing,
      extend_mul_extend (Or.inl factorPositive) (Or.inl ENNReal.ofReal_ne_top),
      extend_div_extend (ENNReal.ofReal_pos.mpr (by linarith)) (Or.inr ENNReal.ofReal_ne_top),
      spacingEnergy]
  have rootOf : Scalar.sqrt (finite size : Exact tail) = finite (Real.sqrt size) :=
    if_neg (not_lt.mpr (by linarith))
  rw [qamErrorOf, argument, sqrt_extend, erfc_extend, rootOf, one_eq_finite,
    finite_div_finite _ root, finite_sub_finite, finite_mul_finite, finite_sub_finite,
    power_finite _ (Or.inr (by norm_num)), lift_ok, ok_bind, finite_sub_finite,
    finite_div_finite _ (by linarith), errorShare, if_neg many]
  rfl

variable {snr width rate : Exact tail} {size : Int}

theorem bitErrorRate_of_energy
    (member : size ∈ constellationSizes) {energy : ENNReal}
    (known : bitEnergyRatio snr width rate = .ok (extend energy)) :
    bitErrorRate snr size width rate = .ok (finite (errorShare tail size energy)) := by
  by_cases two : size = 2
  · rw [bitErrorRate, if_pos two, bpskErrorRate, known, ok_bind, sqrt_extend, erfc_extend,
      errorShare, if_pos two]
    norm_num
    rfl
  · have positive : 0 < size := two_pos.trans_le (two_le_constellation member)
    rw [bitErrorRate, if_neg two, qamErrorRate, if_neg (by tauto), known, ok_bind,
      logTwo_of_pos positive, lift_ok, ok_bind, ofInt_eq, lift_ok, ok_bind,
      qamErrorOf_extend member two]

theorem bitErrorRate_of_no_energy
    (member : size ∈ constellationSizes)
    (unknown : bitEnergyRatio snr width rate = .ok notANumber) :
    bitErrorRate snr size width rate = .ok notANumber := by
  have noRoot : Scalar.sqrt (notANumber : Exact tail) = notANumber := rfl
  have noTail : Scalar.erfc (notANumber : Exact tail) = notANumber := rfl
  by_cases two : size = 2
  · rw [bitErrorRate, if_pos two, bpskErrorRate, unknown, ok_bind, noRoot, noTail, mul_notANumber]
    rfl
  · have positive : 0 < size := two_pos.trans_le (two_le_constellation member)
    have noPower : Scalar.power (notANumber : Exact tail) 2 = .ok notANumber := rfl
    rw [bitErrorRate, if_neg two, qamErrorRate, if_neg (by tauto), unknown, ok_bind,
      logTwo_of_pos positive, lift_ok, ok_bind, ofInt_eq, lift_ok, ok_bind, qamErrorOf,
      mul_notANumber, notANumber_div, noRoot, noTail, mul_notANumber, sub_notANumber, noPower,
      lift_ok, ok_bind, sub_notANumber, notANumber_div]
    rfl

theorem bitErrorRate_of_fault
    (member : size ∈ constellationSizes) {fault : Fault (Exact tail)}
    (refused : bitEnergyRatio snr width rate = .error fault) :
    bitErrorRate snr size width rate = .error fault := by
  by_cases two : size = 2
  · rw [bitErrorRate, if_pos two, bpskErrorRate, refused, error_bind]
  · rw [bitErrorRate, if_neg two, qamErrorRate, if_neg (by tauto), refused, error_bind]

end Calculated

end WifiLink
