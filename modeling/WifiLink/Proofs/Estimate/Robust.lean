import WifiLink.Mode.Catalogue
import WifiLink.Proofs.Code.Robust
import WifiLink.Proofs.Estimate.CodeRate

/-!
# The most robust mode

A class's mode with half of the bits on two points is compared with its other modes at the same
ratio. A symbol has the same energy in all of them, so that each bit of a larger constellation has
less of it. What that makes of the bit error rates depends on the noise.
-/

namespace WifiLink

open Exact

variable {tail : ErrorTail}

/-! ## Bounds at the energy of a symbol -/

/-- In Gaussian noise two points and half of the bits make the smallest bound from three eighths
of the noise density on, and compared with the outlived codes everywhere. -/
theorem eventMass_half_le_of_gaussian
    {size : Int} {rate : CodeRate} {spectrum : DistanceSpectrum}
    (listed : (size, rate, spectrum) ∈ DistanceSpectrum.table) {energy : ENNReal}
    (loud : 3 / 8 ≤ energy ∨ Outlived size rate) :
    eventMass .half (errorShare gaussianTail 2 energy) ≤
      eventMass spectrum
        (errorShare gaussianTail size (energy / ENNReal.ofReal (Real.logb 2 size))) := by
  have member := DistanceSpectrum.constellation_of_mem_table listed
  have two : (2 : Int) ∈ constellationSizes := by decide
  by_cases pair : size = 2
  · have one : Real.logb 2 (2 : Int) = 1 := by
      rw [Int.cast_ofNat, Real.logb_self_eq_one one_lt_two]
    rw [pair, one, ENNReal.ofReal_one, div_one]
    exact eventMass_half_le_of_mem_table listed (errorShare_nonneg two _ _)
      (errorShare_le_half two _ _)
  obtain ⟨n, positive, bounded, rfl⟩ := exists_four_pow member pair
  rw [Int.cast_pow, Int.cast_ofNat, logb_four_pow]
  induction energy with
  | top =>
      rw [errorShare_top two gaussianTail_top]
      exact eventMass_half_le_of_le listed le_rfl (errorShare_nonneg member _ _)
        (errorShare_le_half member _ _)
  | coe x =>
      rw [← ENNReal.ofReal_coe_nnreal, errorShare_two_gaussian x.coe_nonneg,
        errorShare_gaussian positive x.coe_nonneg]
      -- Below three eighths the code is an outlived one, whose bound is one there.
      rcases lt_or_ge (x : ℝ) (3 / 8) with drowned | enough
      · have quiet : ¬(3 / 8 : ENNReal) ≤ x := by
          rw [show (3 / 8 : ENNReal) = ((3 / 8 : NNReal) : ENNReal) by norm_num,
            ENNReal.coe_le_coe, not_le]
          exact_mod_cast drowned
        exact (eventMass_le_one _ _).trans (one_le_eventMass_of_drowned positive bounded listed
          x.coe_nonneg drowned.le (loud.resolve_left quiet))
      · exact eventMass_half_pairShare_le positive bounded listed x.coe_nonneg enough

/-! ## The energy of a class's modes -/

namespace WifiMode

private theorem bits_eq_logb
    {mode : WifiMode (Exact tail)} (member : mode.constellation ∈ constellationSizes) :
    (mode.bits : ℝ) = Real.logb 2 mode.constellation := by
  by_cases pair : mode.constellation = 2
  · rw [bits, pair, Int.cast_ofNat, Real.logb_self_eq_one one_lt_two, Int.floor_one, Int.cast_one]
  · obtain ⟨n, _, _, points⟩ := exists_four_pow member pair
    have whole : (2 * n : ℝ) = ((2 * n : Int) : ℝ) := by push_cast; rfl
    rw [bits, points, Int.cast_pow, Int.cast_ofNat, logb_four_pow, whole, Int.floor_intCast]

end WifiMode

section OneClass

variable {first second : WifiMode (Exact tail)} (coded : first.isCodedOfdm)
  (modulation : second.modulation = first.modulation)
  (member : first.constellation ∈ constellationSizes)
  (member' : second.constellation ∈ constellationSizes)
  {tx tx' : Transmission (Exact tail)} (sameWidth : tx'.width = tx.width)
  {width snr : Exact tail} {streams guardInterval : Int}
include coded modulation member member' sameWidth

private theorem energyAt_of_class
    {energy : ENNReal}
    (known : energyAt tx (first.phyRate width streams guardInterval) snr = .ok (extend energy)) :
    energyAt tx' (second.phyRate width streams guardInterval) snr =
      .ok (extend (energy / ENNReal.ofReal
        (Real.logb 2 second.constellation / Real.logb 2 first.constellation))) := by
  have points := two_le_constellation member
  have points' := two_le_constellation member'
  obtain ⟨value, sent, known⟩ := bind_eq_ok_iff.mp known
  obtain ⟨_, _, r, _, _, _, rfl, _⟩ := bitEnergyRatio_eq_extend known
  have real : r ≠ ⊤ := by
    rintro rfl
    exact WifiMode.phyRate_ne_infinite (two_pos.trans_le points) coded sent extend_top
  rw [extend_of_ne_top real] at sent known
  have factor : (0 : ℝ) < second.bits / first.bits := by
    have some : (1 : ℝ) ≤ first.bits := by exact_mod_cast WifiMode.one_le_bits points
    have some' : (1 : ℝ) ≤ second.bits := by exact_mod_cast WifiMode.one_le_bits points'
    positivity
  rw [energyAt, WifiMode.phyRate_of_bits coded modulation points points' sent, ok_bind, sameWidth,
    bitEnergyRatio_mul_rate factor known, WifiMode.bits_eq_logb member,
    WifiMode.bits_eq_logb member']

omit member member' in
/-- Listed modes of one class are answered alike. -/
theorem exists_modeled_of_class
    (listed : first.Listed) (listed' : second.Listed) {chunk : Chunk (Exact tail)}
    (answered : ∃ probability, estimateWith tx (first.phyRate width streams guardInterval)
      { chunk with mode := first } = .ok (.modeled probability)) :
    ∃ probability, estimateWith tx' (second.phyRate width streams guardInterval)
      { chunk with mode := second } = .ok (.modeled probability) := by
  obtain ⟨spectrum, member⟩ := listed
  obtain ⟨spectrum', member'⟩ := listed'
  obtain ⟨_, answered⟩ := answered
  obtain ⟨_, bits, energy, rests, _⟩ := estimateWith_eq_modeled_iff.mp answered
  have coded' : second.isCodedOfdm := by
    rw [WifiMode.isCodedOfdm, modulation]
    exact coded
  have known := energyAt_of_class coded modulation
    (DistanceSpectrum.constellation_of_mem_table member)
    (DistanceSpectrum.constellation_of_mem_table member') sameWidth rests.energy_eq
  exact ⟨_, estimateWith_eq_modeled_iff.mpr
    ⟨spectrum', bits, _, ⟨coded', member', rests.bits_eq, known⟩, rfl⟩⟩

end OneClass

/-! ## The standard modes -/

section Catalogue

variable {α : Type} [Scalar α]

private theorem mem_table_of_mem_plainOfdmLadder
    {entry : Nat × Int × CodeRate} (member : entry ∈ plainOfdmLadder) :
    ∃ listed ∈ DistanceSpectrum.table, listed.1 = entry.2.1 ∧ listed.2.1 = entry.2.2 := by
  revert entry
  decide

private theorem mem_table_of_mem_codingLadder
    {entry : Int × CodeRate} (member : entry ∈ codingLadder) :
    ∃ listed ∈ DistanceSpectrum.table, listed.1 = entry.1 ∧ listed.2.1 = entry.2 := by
  revert entry
  decide

private theorem spec_of_mem_plainOfdmModes
    {family : String} {modulation : ModulationClass} {mode : WifiMode α}
    (member : mode ∈ plainOfdmModes family modulation) : mode.Listed ∧ mode.fixedRate = 0.0 := by
  obtain ⟨⟨rate, constellation, codeRate⟩, entry, rfl⟩ := List.mem_map.mp member
  obtain ⟨⟨_, _, spectrum⟩, listed, rfl, rfl⟩ := mem_table_of_mem_plainOfdmLadder entry
  exact ⟨⟨spectrum, listed⟩, rfl⟩

private theorem spec_of_mem_indexedModes
    {family : String} {modulation : ModulationClass} {count : ℕ} {mode : WifiMode α}
    (member : mode ∈ indexedModes family modulation count) :
    mode.Listed ∧ mode.fixedRate = 0.0 := by
  obtain ⟨index, inside, rfl⟩ := List.mem_mapIdx.mp member
  have entry := List.mem_of_mem_take (List.getElem_mem inside)
  generalize (codingLadder.take count)[index] = element at entry ⊢
  obtain ⟨constellation, codeRate⟩ := element
  obtain ⟨⟨_, _, spectrum⟩, listed, rfl, rfl⟩ := mem_table_of_mem_codingLadder entry
  exact ⟨⟨spectrum, listed⟩, rfl⟩

/-- The standard modes that the error model describes have a spectrum, and no rate of their own. -/
theorem spec_of_mem_standardModes
    {mode : WifiMode α} (member : mode ∈ standardModes) (coded : mode.isCodedOfdm) :
    mode.Listed ∧ mode.fixedRate = 0.0 := by
  simp only [standardModes, List.mem_append] at member
  rcases member with (((((old | erp) | plain) | ht) | vht) | he) | eht
  · simp only [spreadSpectrumModes, List.mem_cons, List.not_mem_nil, or_false] at old
    rcases old with rfl | rfl | rfl | rfl <;> exact absurd coded Bool.false_ne_true
  · exact spec_of_mem_plainOfdmModes erp
  · exact spec_of_mem_plainOfdmModes plain
  all_goals exact spec_of_mem_indexedModes ‹_›

private theorem sameAs_of_mem_standardModes
    {mode : WifiMode (Exact tail)} (member : mode ∈ standardModes) (coded : mode.isCodedOfdm) :
    mode.sameAs mode := by
  simp [WifiMode.sameAs, (spec_of_mem_standardModes member coded).2]

end Catalogue

/-- A standard mode with half of the bits on two points, and another standard mode of its class. -/
structure WifiMode.MostRobust {α : Type} [Scalar α] (robust other : WifiMode α) : Prop where
  robust_mem : robust ∈ standardModes
  other_mem : other ∈ standardModes
  coded : robust.isCodedOfdm
  modulation_eq : other.modulation = robust.modulation
  constellation_eq : robust.constellation = 2
  codeRate_eq : robust.codeRate = .half

/-- What keeps the robust mode from being beaten at a ratio: it has the fewer bit errors, or the
noise is Gaussian and one of its bits has three eighths of the noise density for its energy, or
the other code is an outlived one. -/
inductive Prevails
    (tx tx' : Transmission (Exact tail)) (robust other : WifiMode (Exact tail))
    (snr : Exact tail) : Prop
  | fewerErrors
      {rate rate' share share' : Exact tail}
      (sent : robust.phyRate tx.width tx.streams tx.guardInterval = .ok rate)
      (sent' : other.phyRate tx'.width tx'.streams tx'.guardInterval = .ok rate')
      (known : bitErrorRate snr robust.constellation tx.width rate = .ok share)
      (known' : bitErrorRate snr other.constellation tx'.width rate' = .ok share')
      (fewer : share ≤ share')
  | loud
      {energy : Exact tail} (gaussian : tail = gaussianTail)
      (known : energyAt tx (robust.phyRate tx.width tx.streams tx.guardInterval) snr = .ok energy)
      (enough : finite (3 / 8) ≤ energy)
  | outlived
      (gaussian : tail = gaussianTail) (outlived : Outlived other.constellation other.codeRate)

section MostRobust

variable {robust other : WifiMode (Exact tail)} (best : robust.MostRobust other)
  {width : Exact tail} {streams guardInterval : Int} (wide : ¬width ≤ 0.0)

namespace WifiMode.MostRobust

include best

private theorem other_coded : other.isCodedOfdm := by
  have coded := best.coded
  rw [isCodedOfdm, ← best.modulation_eq] at coded
  exact coded

private theorem listed_robust :
    (robust.constellation, robust.codeRate, DistanceSpectrum.half) ∈ DistanceSpectrum.table := by
  rw [best.constellation_eq, best.codeRate_eq]
  decide

private theorem listed_other : other.Listed :=
  (spec_of_mem_standardModes best.other_mem best.other_coded).1

end WifiMode.MostRobust

include best

/-- The robust mode's energy is shared among the bits of the other mode. -/
theorem energyAt_of_mostRobust
    {tx tx' : Transmission (Exact tail)} (sameWidth : tx'.width = tx.width) {snr : Exact tail}
    {energy : ENNReal}
    (known : energyAt tx (robust.phyRate width streams guardInterval) snr = .ok (extend energy)) :
    energyAt tx' (other.phyRate width streams guardInterval) snr =
      .ok (extend (energy / ENNReal.ofReal (Real.logb 2 other.constellation))) := by
  obtain ⟨_, listed'⟩ := best.listed_other
  have one : Real.logb 2 robust.constellation = 1 := by
    rw [best.constellation_eq, Int.cast_ofNat, Real.logb_self_eq_one one_lt_two]
  have shared := energyAt_of_class best.coded best.modulation_eq
    (DistanceSpectrum.constellation_of_mem_table best.listed_robust)
    (DistanceSpectrum.constellation_of_mem_table listed') sameWidth known
  rw [one, div_one] at shared
  exact shared

omit best in
private theorem bitErrorRate_of_energyAt
    {tx : Transmission (Exact tail)} {rate : Except (Fault (Exact tail)) (Exact tail)}
    {value snr : Exact tail} {size : Int} {energy : ENNReal} (member : size ∈ constellationSizes)
    (sent : rate = .ok value) (known : energyAt tx rate snr = .ok (extend energy)) :
    bitErrorRate snr size tx.width value = .ok (finite (errorShare tail size energy)) := by
  rw [energyAt, sent, ok_bind] at known
  exact bitErrorRate_of_energy member known

private theorem eventMass_le_of_prevails
    {snr : Exact tail} {spectrum : DistanceSpectrum} {energy : ENNReal}
    (listed : (other.constellation, other.codeRate, spectrum) ∈ DistanceSpectrum.table)
    (known : energyAt (Transmission.single robust width streams guardInterval wide)
      (robust.phyRate width streams guardInterval) snr = .ok (extend energy))
    (prevails : Prevails (Transmission.single robust width streams guardInterval wide)
      (Transmission.single other width streams guardInterval wide) robust other snr) :
    eventMass .half (errorShare tail 2 energy) ≤
      eventMass spectrum (errorShare tail other.constellation
        (energy / ENNReal.ofReal (Real.logb 2 other.constellation))) := by
  have member := DistanceSpectrum.constellation_of_mem_table listed
  have two : (2 : Int) ∈ constellationSizes := by decide
  cases prevails with
  | fewerErrors sent sent' bitErrors bitErrors' fewer =>
      have known' : energyAt (Transmission.single other width streams guardInterval wide)
          (other.phyRate width streams guardInterval) snr = .ok (extend _) :=
        energyAt_of_mostRobust best rfl known
      rw [best.constellation_eq, bitErrorRate_of_energyAt two sent known] at bitErrors
      rw [bitErrorRate_of_energyAt member sent' known'] at bitErrors'
      obtain rfl := Except.ok.inj bitErrors
      obtain rfl := Except.ok.inj bitErrors'
      exact eventMass_half_le_of_le listed (errorShare_nonneg two _ _)
        ((finite_le_finite _ _).mp fewer) (errorShare_le_half member _ _)
  | loud gaussian known' enough =>
      subst gaussian
      obtain rfl := Except.ok.inj (known.symm.trans known')
      have eighths : ENNReal.ofReal (3 / 8) = 3 / 8 := by
        rw [ENNReal.ofReal_div_of_pos (by norm_num)]
        norm_num
      rw [finite_eq_extend (by norm_num), extend_le_extend, eighths] at enough
      exact eventMass_half_le_of_gaussian listed (Or.inl enough)
  | outlived gaussian outlived =>
      subst gaussian
      exact eventMass_half_le_of_gaussian listed (Or.inr outlived)

private theorem probability_le_of_prevails
    {chunk : Chunk (Exact tail)} {probability probability' : Exact tail}
    (answered : estimateWith (Transmission.single robust width streams guardInterval wide)
      (robust.phyRate width streams guardInterval) { chunk with mode := robust } =
        .ok (.modeled probability))
    (answered' : estimateWith (Transmission.single other width streams guardInterval wide)
      (other.phyRate width streams guardInterval) { chunk with mode := other } =
        .ok (.modeled probability'))
    (prevails : Prevails (Transmission.single robust width streams guardInterval wide)
      (Transmission.single other width streams guardInterval wide) robust other chunk.snr) :
    probability' ≤ probability := by
  obtain ⟨spectrum, bits, energy, rests, rfl⟩ := estimateWith_eq_modeled_iff.mp answered
  obtain ⟨spectrum', bits', energy', rests', rfl⟩ := estimateWith_eq_modeled_iff.mp answered'
  obtain rfl : bits = bits' :=
    natural_eq_of_integer_eq (rests.bits_eq.symm.trans rests'.bits_eq)
  obtain rfl := DistanceSpectrum.eq_of_mem_table best.listed_robust rests.listed
  obtain rfl := extend_injective (Except.ok.inj ((energyAt_of_mostRobust best rfl
    rests.energy_eq).symm.trans rests'.energy_eq))
  dsimp only
  rw [finite_le_finite, best.constellation_eq]
  exact survivalShare_le_of_eventMass_le rests'.listed
    (eventMass_le_of_prevails best wide rests'.listed rests.energy_eq prevails) bits

end MostRobust

/-! ## Samples -/

section Sample

variable (tail) in
/-- A plain OFDM mode, by its nominal rate. -/
noncomputable def plainMode (rate : ℕ) (size : Int) (codeRate : CodeRate) :
    WifiMode (Exact tail) where
  name := "OfdmRate" ++ toString rate ++ "Mbps"
  modulation := .ofdm
  constellation := size
  codeRate := codeRate
  fixedRate := finite 0

section Entry

variable {rate : ℕ} {size : Int} {codeRate : CodeRate}
  (entry : (rate, size, codeRate) ∈ plainOfdmLadder)
include entry

private theorem plainMode_mem : plainMode tail rate size codeRate ∈ standardModes := by
  have member : plainMode tail rate size codeRate ∈ plainOfdmModes "OfdmRate" .ofdm :=
    List.mem_map.mpr ⟨_, entry, by rw [zero_eq_finite]; rfl⟩
  simp only [standardModes, List.mem_append, member, true_or, or_true]

private theorem plainMode_mostRobust :
    (plainMode tail 6 2 .half).MostRobust (plainMode tail rate size codeRate) where
  robust_mem := plainMode_mem (by decide)
  other_mem := plainMode_mem entry
  coded := rfl
  modulation_eq := rfl
  constellation_eq := rfl
  codeRate_eq := rfl

end Entry

/-- What a plain mode says of a bit on 20 MHz, from an energy that is zero where the ratio is. -/
theorem exists_estimate_plainMode
    (rate : ℕ) {size : Int} {codeRate : CodeRate} {spectrum : DistanceSpectrum}
    (listed : (size, codeRate, spectrum) ∈ DistanceSpectrum.table)
    (settings : Settings (Exact tail)) {ratio : ℝ} (nonneg : 0 ≤ ratio) :
    ∃ (tx : Transmission (Exact tail)) (energy : ENNReal),
      Transmission.singleUser (plainMode tail rate size codeRate) (finite 20) = .ok tx ∧
      (energy = 0 ↔ ratio = 0) ∧
      estimate tx settings
          { mode := plainMode tail rate size codeRate, snr := finite ratio, bits := .integer 1 } =
        .ok (.modeled (finite (1 - eventMass spectrum (errorShare tail size energy)))) := by
  have wide : ¬(finite 20 : Exact tail) ≤ 0.0 := WifiMode.not_twenty_nonpos
  have points := two_le_constellation (DistanceSpectrum.constellation_of_mem_table listed)
  have own : (plainMode tail rate size codeRate).sameAs (plainMode tail rate size codeRate) := by
    simp [WifiMode.sameAs, plainMode]
  have accepts := @ofdm_accepts_twenty tail
  obtain ⟨r, positive, sent⟩ : ∃ r : ℝ, 0 < r ∧
      (plainMode tail rate size codeRate).phyRate (finite 20) 1 800 = .ok (finite r) :=
    WifiMode.phyRate_of_lasting accepts.wide points le_rfl rfl accepts.takes accepts.lasting
  have known : energyAt
      (Transmission.single (plainMode tail rate size codeRate) (finite 20) 1 800 wide)
      ((plainMode tail rate size codeRate).phyRate (finite 20) 1 800)
      (extend (ENNReal.ofReal ratio)) = .ok (extend _) :=
    energyAt_of_rate rfl accepts.wide sent positive (ENNReal.ofReal ratio)
  rw [← finite_eq_extend nonneg] at known
  refine ⟨_, energyRatio (ENNReal.ofReal ratio) (ENNReal.ofReal 20) (ENNReal.ofReal r),
    Transmission.singleUser_of_wide _ 1 800 wide, ?_, ?_⟩
  · simp [energyRatio, ENNReal.div_eq_zero_iff, nonneg.ge_iff_eq']
  · rw [estimate, Transmission.effectiveRate_single wide own]
    refine estimateWith_eq_modeled_iff.mpr ⟨spectrum, 1, _, ⟨rfl, listed, rfl, known⟩, ?_⟩
    rw [survivalShare, pow_one]
    rfl

private theorem energyAt_plainMode (wide : ¬(finite 20 : Exact tail) ≤ 0.0) :
    energyAt (Transmission.single (plainMode tail 6 2 .half) (finite 20) 1 800 wide)
      ((plainMode tail 6 2 .half).phyRate (finite 20) 1 800) (finite 1) = .ok (finite (5 / 3)) := by
  have member : (plainMode tail 6 2 .half).constellation ∈ constellationSizes := by
    change (2 : Int) ∈ constellationSizes
    decide
  have one : ((plainMode tail 6 2 .half).bits : ℝ) = 1 := by
    rw [WifiMode.bits_eq_logb member]
    exact Real.logb_self_eq_one one_lt_two
  have sent : (plainMode tail 6 2 .half).phyRate (finite 20) 1 800 = .ok (finite 12000000) := by
    rw [WifiMode.phyRate_plain rfl two_pos wide le_rfl, WifiMode.plainRate_finite, one]
    norm_num
  have energy := @bitEnergyRatio_finite tail 1 20 12000000 (by norm_num) (by norm_num) (by norm_num)
  norm_num at energy
  rw [sent, energyAt, ok_bind]
  exact energy

/-- An antitone map that is one at zero and never falls below one half. -/
noncomputable def halfTail : ErrorTail := fun x =>
  if x = 0 then 1 else ⟨1 / 2, by norm_num, by norm_num⟩

private theorem halfTail_zero : halfTail 0 = 1 :=
  if_pos rfl

private theorem halfTail_of_ne_zero {x : ENNReal} (some : x ≠ 0) : (halfTail x : ℝ) = 1 / 2 := by
  rw [halfTail, if_neg some]

private theorem halfTail_antitone : Antitone halfTail := by
  intro x y below
  by_cases zero : x = 0
  · rw [zero, halfTail_zero]
    exact unitInterval.le_one'
  · have some : y ≠ 0 := (lt_of_lt_of_le (pos_iff_ne_zero.mpr zero) below).ne'
    rw [halfTail, halfTail, if_neg zero, if_neg some]

private theorem errorShare_two_zero (unit : tail 0 = 1) : errorShare tail 2 0 = 1 / 2 := by
  rw [errorShare, if_pos rfl, ENNReal.zero_rpow_of_pos one_half_pos, unit]
  norm_num

private theorem errorShare_sixteen_zero (unit : tail 0 = 1) : errorShare tail 16 0 = 15 / 64 := by
  rw [show (16 : Int) = 4 ^ 2 by norm_num, errorShare_four_pow two_pos, spacingEnergy, mul_zero,
    ENNReal.zero_div, ENNReal.zero_rpow_of_pos one_half_pos, unit]
  norm_num [squareShare]

private theorem errorShare_two_halfTail {energy : ENNReal} (some : energy ≠ 0) :
    errorShare halfTail 2 energy = 1 / 4 := by
  have root : energy ^ (1 / 2 : ℝ) ≠ 0 := by
    simp [some]
  rw [errorShare, if_pos rfl, halfTail_of_ne_zero root]
  norm_num

private theorem errorShare_four_halfTail {energy : ENNReal} (some : energy ≠ 0) :
    errorShare halfTail 4 energy = 7 / 32 := by
  have spaced : spacingEnergy (4 ^ 1) energy ^ (1 / 2 : ℝ) ≠ 0 := by
    rw [spacingEnergy, Int.cast_pow, Int.cast_ofNat, logb_four_pow]
    simp [some, ENNReal.div_eq_zero_iff]
  rw [show (4 : Int) = 4 ^ 1 by norm_num, errorShare_four_pow one_pos, halfTail_of_ne_zero spaced]
  norm_num [squareShare]

end Sample

/-- Of two standard modes of a class, each in its single-user transmission, of which one has half
of the bits on two points, both are answered or none, and that one survives with no smaller
probability where something keeps it from being beaten. Both are answered when their class takes
the width, the streams and the guard interval. -/
theorem estimate_of_mostRobust
    {robust other : WifiMode (Exact tail)} (best : robust.MostRobust other)
    {width : Exact tail} {streams guardInterval : Int} {tx tx' : Transmission (Exact tail)}
    (made : Transmission.singleUser robust width streams guardInterval = .ok tx)
    (made' : Transmission.singleUser other width streams guardInterval = .ok tx')
    (settings : Settings (Exact tail)) (chunk : Chunk (Exact tail)) :
    ((∃ probability, estimate tx settings { chunk with mode := robust } =
        .ok (.modeled probability)) ↔
      ∃ probability, estimate tx' settings { chunk with mode := other } =
        .ok (.modeled probability)) ∧
    (∀ probability probability',
      estimate tx settings { chunk with mode := robust } = .ok (.modeled probability) →
        estimate tx' settings { chunk with mode := other } = .ok (.modeled probability') →
          Prevails tx tx' robust other chunk.snr → probability' ≤ probability) ∧
    (∀ w : ℝ, width = finite w → robust.modulation.Accepts tail w streams guardInterval →
      ValidQuestion chunk →
        ∃ probability, estimate tx settings { chunk with mode := robust } =
          .ok (.modeled probability)) := by
  have own := sameAs_of_mem_standardModes best.robust_mem best.coded
  have own' := sameAs_of_mem_standardModes best.other_mem best.other_coded
  have listed : robust.Listed := ⟨_, best.listed_robust⟩
  obtain ⟨wide, rfl⟩ := Transmission.eq_single_of_singleUser made
  obtain ⟨_, rfl⟩ := Transmission.eq_single_of_singleUser made'
  simp only [estimate, Transmission.effectiveRate_single wide own,
    Transmission.effectiveRate_single wide own']
  refine ⟨⟨?_, ?_⟩, ?_, ?_⟩
  · exact exists_modeled_of_class best.coded best.modulation_eq rfl listed best.listed_other
  · exact exists_modeled_of_class best.other_coded best.modulation_eq.symm rfl best.listed_other
      listed
  · intro probability probability' answered answered' prevails
    exact probability_le_of_prevails best wide answered answered' prevails
  · rintro w rfl accepts valid
    obtain ⟨probability, answered⟩ :=
      exists_probability_of_accepts best.coded listed own accepts made settings valid
    rw [estimate, Transmission.effectiveRate_single wide own] at answered
    exact ⟨finite probability, answered⟩

/-- Of the modes at 6 and 24 Mbit/s the slower one is not beaten at the ratio one, where its bits
have five thirds of the noise density for their energy. -/
theorem plainMode_estimate_order :
    ∃ tx tx' : Transmission (Exact gaussianTail),
      Transmission.singleUser (plainMode gaussianTail 6 2 .half) (finite 20) = .ok tx ∧
      Transmission.singleUser (plainMode gaussianTail 24 16 .half) (finite 20) = .ok tx' ∧
      ∃ probability probability',
        estimate tx .standard
            { htChunk (finite 1) 8 with mode := plainMode gaussianTail 6 2 .half } =
          .ok (.modeled probability) ∧
        estimate tx' .standard
            { htChunk (finite 1) 8 with mode := plainMode gaussianTail 24 16 .half } =
          .ok (.modeled probability') ∧
        probability' ≤ probability := by
  have wide : ¬(finite 20 : Exact gaussianTail) ≤ 0.0 := WifiMode.not_twenty_nonpos
  have made := Transmission.singleUser_of_wide (plainMode gaussianTail 6 2 .half) 1 800 wide
  have made' := Transmission.singleUser_of_wide (plainMode gaussianTail 24 16 .half) 1 800 wide
  have best := @plainMode_mostRobust gaussianTail 24 16 .half (by decide)
  obtain ⟨alike, ordered, answers⟩ := estimate_of_mostRobust best made made' .standard
    (htChunk (finite 1) 8)
  have valid : ValidQuestion (htChunk (finite 1 : Exact gaussianTail) 8) :=
    htChunk_valid zero_le_one 8
  obtain ⟨probability, answered⟩ := answers 20 rfl ofdm_accepts_twenty valid
  obtain ⟨probability', answered'⟩ := alike.mp ⟨probability, answered⟩
  have enough : (finite (3 / 8) : Exact gaussianTail) ≤ finite (5 / 3) := by
    rw [finite_le_finite]
    norm_num
  exact ⟨_, _, made, made', probability, probability', answered, answered',
    ordered probability probability' answered answered'
      (.loud rfl (energyAt_plainMode wide) enough)⟩

/-- Without a signal the most robust mode loses every bit, and sixteen points lose no more than
every second one. And with a tail that never falls below one half, four points lose fewer bits at
the ratio one. -/
theorem plainMode_beaten :
    (∃ (tx tx' : Transmission (Exact gaussianTail)) (probability' : ℝ),
      (plainMode gaussianTail 6 2 .half).MostRobust (plainMode gaussianTail 24 16 .half) ∧
      Transmission.singleUser (plainMode gaussianTail 6 2 .half) (finite 20) = .ok tx ∧
      Transmission.singleUser (plainMode gaussianTail 24 16 .half) (finite 20) = .ok tx' ∧
      estimate tx .standard
          { mode := plainMode gaussianTail 6 2 .half, snr := finite 0, bits := .integer 1 } =
        .ok (.modeled (finite 0)) ∧
      estimate tx' .standard
          { mode := plainMode gaussianTail 24 16 .half, snr := finite 0, bits := .integer 1 } =
        .ok (.modeled (finite probability')) ∧
      1 / 2 ≤ probability') ∧
    Antitone halfTail ∧ halfTail 0 = 1 ∧
    ∃ (tx tx' : Transmission (Exact halfTail)) (probability probability' : ℝ),
      (plainMode halfTail 6 2 .half).MostRobust (plainMode halfTail 12 4 .half) ∧
      Transmission.singleUser (plainMode halfTail 6 2 .half) (finite 20) = .ok tx ∧
      Transmission.singleUser (plainMode halfTail 12 4 .half) (finite 20) = .ok tx' ∧
      estimate tx .standard
          { mode := plainMode halfTail 6 2 .half, snr := finite 1, bits := .integer 1 } =
        .ok (.modeled (finite probability)) ∧
      estimate tx' .standard
          { mode := plainMode halfTail 12 4 .half, snr := finite 1, bits := .integer 1 } =
        .ok (.modeled (finite probability')) ∧
      probability < probability' := by
  refine ⟨?_, halfTail_antitone, halfTail_zero, ?_⟩
  · obtain ⟨tx, energy, made, silent, answered⟩ := @exists_estimate_plainMode gaussianTail 6 2
      .half .half (by decide) .standard 0 le_rfl
    obtain ⟨tx', energy', made', silent', answered'⟩ := @exists_estimate_plainMode gaussianTail 24
      16 .half .twoTermHalf (by decide) .standard 0 le_rfl
    have lost : 1 - eventMass .half (1 / 2) = 0 := by
      rw [eventMass_half, pairwiseMass_ten]
      norm_num
    have kept : (1 : ℝ) / 2 ≤ 1 - eventMass .twoTermHalf (15 / 64) := by
      rw [eventMass_twoTermHalf, eventMass_half, pairwiseMass_ten]
      norm_num
    rw [silent.mpr rfl, errorShare_two_zero gaussianTail_zero, lost] at answered
    rw [silent'.mpr rfl, errorShare_sixteen_zero gaussianTail_zero] at answered'
    exact ⟨tx, tx', _, plainMode_mostRobust (by decide), made, made', answered, answered', kept⟩
  · obtain ⟨tx, energy, made, silent, answered⟩ := @exists_estimate_plainMode halfTail 6 2
      .half .half (by decide) .standard 1 zero_le_one
    obtain ⟨tx', energy', made', silent', answered'⟩ := @exists_estimate_plainMode halfTail 12
      4 .half .twoTermHalf (by decide) .standard 1 zero_le_one
    have fewer : 1 - eventMass .half (1 / 4) < 1 - eventMass .twoTermHalf (7 / 32) := by
      rw [eventMass_twoTermHalf, eventMass_half, eventMass_half, pairwiseMass_ten,
        pairwiseMass_ten]
      norm_num
    rw [errorShare_two_halfTail (mt silent.mp one_ne_zero)] at answered
    rw [errorShare_four_halfTail (mt silent'.mp one_ne_zero)] at answered'
    exact ⟨tx, tx', _, _, plainMode_mostRobust (by decide), made, made', answered, answered', fewer⟩

end WifiLink
