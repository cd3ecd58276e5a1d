import WifiLink.Mode.Rate
import WifiLink.Proofs.Exact.Nonnegative
import WifiLink.Proofs.Outcome

/-!
# Coded rates in exact numbers

Every coded class is either a plain OFDM one, whose rate follows from the width alone, or one with
a table of widths, whose rate also counts streams and guard interval. For both it is said when
there is a rate and what it is.
-/

namespace WifiLink

open Exact

variable {tail : ErrorTail}

namespace ModulationClass

/-- The two coded classes that fill 20 MHz at most and know neither streams nor guard interval. -/
def isPlain : ModulationClass → Bool
  | erpOfdm | ofdm => true
  | _ => false

/-- The classes with a table of widths. -/
def isTabled : ModulationClass → Bool
  | ht | vht | he | eht => true
  | _ => false

theorem isPlain_iff (c : ModulationClass) : c.isPlain ↔ c = erpOfdm ∨ c = ofdm := by
  cases c <;> decide

theorem isTabled_iff (c : ModulationClass) :
    c.isTabled ↔ c = ht ∨ c = vht ∨ c = he ∨ c = eht := by
  cases c <;> decide

theorem isCodedOfdm_iff (c : ModulationClass) :
    c.isCodedOfdm ↔ c.isPlain ∨ c.isTabled := by
  cases c <;> decide

/-- The time of a symbol without its guard interval, in nanoseconds. -/
def usefulNanoseconds : ModulationClass → Int
  | he | eht => 12800
  | _ => 3200

end ModulationClass

/-- The time of a symbol with its guard interval, in nanoseconds. -/
def symbolNanoseconds (modulation : ModulationClass) (guardInterval : Int) : Int :=
  modulation.usefulNanoseconds + guardInterval

theorem usefulSymbolTime_eq (modulation : ModulationClass) :
    (usefulSymbolTime modulation : Exact tail) =
      finite (modulation.usefulNanoseconds * 1e-9) := by
  cases modulation <;> norm_num [usefulSymbolTime, ModulationClass.usefulNanoseconds]

theorem guardTime_eq (guardInterval : Int) :
    (guardTime guardInterval : Except (Fault (Exact tail)) (Exact tail)) =
      .ok (finite (guardInterval * 1e-9)) := by
  rw [guardTime, ofInt_eq, lift_ok, ok_bind, ofScientific_eq, finite_mul_finite]
  rfl

theorem symbolTime_eq (modulation : ModulationClass) (guardInterval : Int) :
    (usefulSymbolTime modulation : Exact tail) + finite (guardInterval * 1e-9) =
      finite (symbolNanoseconds modulation guardInterval * 1e-9) := by
  rw [usefulSymbolTime_eq, finite_add_finite, ← add_mul, symbolNanoseconds, Int.cast_add]

/-! ## Subcarriers -/

section Subcarriers

variable {modulation : ModulationClass} {width : Exact tail}

theorem one_le_of_mem_subcarrierTable {entry : Exact tail × Int}
    (member : entry ∈ subcarrierTable modulation) :
    1 ≤ entry.2 := by
  have all : ∀ other ∈ (subcarrierTable modulation : List (Exact tail × Int)), 1 ≤ other.2 := by
    cases modulation <;> simp [subcarrierTable]
  exact all entry member

/-- There is always at least one subcarrier. -/
theorem one_le_subcarriers {carriers : Int}
    (answered : subcarriers modulation width = .ok carriers) :
    1 ≤ carriers := by
  unfold subcarriers at answered
  split at answered
  · next entry found =>
    cases answered
    exact one_le_of_mem_subcarrierTable (List.mem_of_find?_eq_some found)
  · split_ifs at answered
    · obtain ⟨base, _, answered⟩ := bind_eq_ok_iff.mp answered
      obtain ⟨share, _, answered⟩ := bind_eq_ok_iff.mp answered
      cases answered
      exact le_max_left 1 share

/-- A width has subcarriers when it is below 20 MHz or stands in the table. -/
def TakesWidth (modulation : ModulationClass) (width : Exact tail) : Prop :=
  width < 20.0 ∨ width ∈ (subcarrierTable modulation).map Prod.fst

theorem subcarriers_of_takesWidth
    {w : ℝ} (takes : TakesWidth modulation (finite w : Exact tail)) :
    ∃ carriers, subcarriers modulation (finite w : Exact tail) = .ok carriers := by
  unfold subcarriers
  cases found : (subcarrierTable modulation).find? fun entry => Scalar.same (finite w) entry.1 with
  | some entry => exact ⟨entry.2, rfl⟩
  | none =>
      have narrow : (finite w : Exact tail) < 20.0 := by
        refine takes.resolve_right fun listed => ?_
        obtain ⟨entry, member, equality⟩ := List.mem_map.mp listed
        have differs := List.find?_eq_none.mp found entry member
        rw [equality] at differs
        simp at differs
      have twenty : (20.0 : ℝ) ≠ 0 := by norm_num
      refine ⟨max 1 ⌊baseSubcarriers modulation * w / 20.0⌋, ?_⟩
      dsimp only
      rw [if_pos narrow, ofInt_eq, lift_ok, ok_bind, finite_mul_finite, ofScientific_eq,
        finite_div_finite _ twenty, floor_finite, lift_ok, ok_bind]
      rfl

theorem subcarriers_of_not_takesWidth (untaken : ¬TakesWidth modulation width) :
    subcarriers modulation width = .error (.unsupportedWidth width) := by
  rw [TakesWidth, not_or] at untaken
  unfold subcarriers
  cases found : (subcarrierTable modulation).find? fun entry => Scalar.same width entry.1 with
  | some entry =>
      have matching : Scalar.same width entry.1 := by
        simpa using List.find?_some found
      have same := eq_of_same matching
      exact absurd (List.mem_map.mpr ⟨entry, List.mem_of_find?_eq_some found, same.symm⟩) untaken.2
  | none =>
      dsimp only
      rw [if_neg untaken.1]

theorem refused_subcarriers (untaken : ¬TakesWidth modulation width) :
    Refused (subcarriers modulation width) := by
  rw [subcarriers_of_not_takesWidth untaken]
  exact refused_error rfl

end Subcarriers

/-! ## Rates -/

namespace WifiMode

variable {mode : WifiMode (Exact tail)} {width : Exact tail} {streams guardInterval : Int}

/-- The bits of a constellation point, where the constellation has points. -/
noncomputable def bits (mode : WifiMode (Exact tail)) : Int := ⌊Real.logb 2 mode.constellation⌋

theorem bitsPerSymbol_of_pos (points : 0 < mode.constellation) :
    mode.bitsPerSymbol = .ok mode.bits := by
  rw [bitsPerSymbol, logTwo_of_pos points, lift_ok, ok_bind, floor_finite, lift_ok, bits]

theorem bits_nonneg (points : 0 < mode.constellation) : 0 ≤ mode.bits := by
  have large : (1 : ℝ) ≤ mode.constellation := by
    exact_mod_cast points
  exact Int.floor_nonneg.mpr (Real.logb_nonneg one_lt_two large)

theorem one_le_bits (points : 2 ≤ mode.constellation) : 1 ≤ mode.bits := by
  have large : (2 : ℝ) ≤ mode.constellation := by
    exact_mod_cast points
  rw [bits, Int.le_floor, Int.cast_one, Real.le_logb_iff_rpow_le one_lt_two (by linarith)]
  simpa using large

/-- The rate of a plain OFDM mode. -/
noncomputable def plainRate (mode : WifiMode (Exact tail)) (width : Exact tail) : Exact tail :=
  finite (48 * mode.bits : Int) * (Scalar.least width 20.0 / 20.0) / 4e-6

/-- The rate of a mode with a table of widths. -/
noncomputable def tabledRate
    (mode : WifiMode (Exact tail)) (carriers streams guardInterval : Int) : ℝ :=
  (carriers * mode.bits * streams : Int) /
    (symbolNanoseconds mode.modulation guardInterval * 1e-9)

theorem phyRate_plain
    (plain : mode.modulation.isPlain) (points : 0 < mode.constellation)
    (wide : ¬width ≤ 0.0) (some : 1 ≤ streams) :
    mode.phyRate width streams guardInterval = .ok (mode.plainRate width) := by
  rw [phyRate, phyRateWith, if_neg wide, ok_bind, if_neg (by omega)]
  rcases (ModulationClass.isPlain_iff _).mp plain with modulation | modulation <;>
  · rw [modulation]
    dsimp only
    rw [bitsPerSymbol_of_pos points, ok_bind, ofInt_eq, lift_ok, ok_bind]
    rfl

theorem phyRate_tabled
    (tabled : mode.modulation.isTabled) (points : 0 < mode.constellation)
    (wide : ¬width ≤ 0.0) (some : 1 ≤ streams) {carriers : Int}
    (taken : subcarriers mode.modulation width = .ok carriers)
    (time : symbolNanoseconds mode.modulation guardInterval ≠ 0) :
    mode.phyRate width streams guardInterval =
      .ok (finite (mode.tabledRate carriers streams guardInterval)) := by
  have timeReal : (symbolNanoseconds mode.modulation guardInterval : ℝ) * 1e-9 ≠ 0 := by
    have : (symbolNanoseconds mode.modulation guardInterval : ℝ) ≠ 0 := by exact_mod_cast time
    positivity
  have symbolTime := @symbolTime_eq tail mode.modulation guardInterval
  have quotient (x : ℝ) :
      Scalar.quotient (finite x : Exact tail)
          (finite (symbolNanoseconds mode.modulation guardInterval * 1e-9)) =
        .ok (finite (x / (symbolNanoseconds mode.modulation guardInterval * 1e-9))) := by
    rw [Scalar.quotient, ofScientific_eq, same_finite, if_neg (by norm_num; exact_mod_cast time),
      finite_div_finite _ timeReal]
  rw [phyRate, phyRateWith, if_neg wide, ok_bind, if_neg (by omega), tabledRate]
  rcases (ModulationClass.isTabled_iff _).mp tabled with modulation | modulation | modulation |
    modulation <;>
  · rw [modulation] at taken symbolTime quotient ⊢
    dsimp only
    rw [taken, ok_bind, guardTime_eq, ok_bind, symbolTime, bitsPerSymbol_of_pos points, ok_bind,
      ofInt_eq, lift_ok, ok_bind, quotient, lift_ok]

/-! ## Missing rates -/

theorem phyRate_of_narrow (narrow : width ≤ 0.0) :
    mode.phyRate width streams guardInterval = .error .widthNotPositive := by
  rw [phyRate, phyRateWith, if_pos narrow]

theorem phyRate_of_no_stream (wide : ¬width ≤ 0.0) (none : streams < 1) :
    mode.phyRate width streams guardInterval = .error .noSpatialStream := by
  rw [phyRate, phyRateWith, if_neg wide, ok_bind, if_pos none]

theorem phyRate_of_untaken
    (tabled : mode.modulation.isTabled) (wide : ¬width ≤ 0.0) (some : 1 ≤ streams)
    {fault : Fault (Exact tail)} (untaken : subcarriers mode.modulation width = .error fault) :
    mode.phyRate width streams guardInterval = .error fault := by
  rw [phyRate, phyRateWith, if_neg wide, ok_bind, if_neg (by omega)]
  rcases (ModulationClass.isTabled_iff _).mp tabled with modulation | modulation | modulation |
    modulation <;>
  · rw [modulation] at untaken ⊢
    dsimp only
    rw [untaken, error_bind]

/-- A guard interval that takes all of the symbol's time away leaves no rate. -/
theorem phyRate_of_no_time
    (tabled : mode.modulation.isTabled) (points : 0 < mode.constellation)
    (wide : ¬width ≤ 0.0) (some : 1 ≤ streams) {carriers : Int}
    (taken : subcarriers mode.modulation width = .ok carriers)
    (time : symbolNanoseconds mode.modulation guardInterval = 0) :
    mode.phyRate width streams guardInterval = .error (.arithmetic .divisionByZero) := by
  have symbolTime := @symbolTime_eq tail mode.modulation guardInterval
  rw [time, Int.cast_zero, zero_mul] at symbolTime
  have quotient (x : ℝ) :
      Scalar.quotient (finite x : Exact tail) (finite 0) = .error .divisionByZero := by
    rw [Scalar.quotient, ofScientific_eq, same_finite, if_pos (by norm_num)]
  rw [phyRate, phyRateWith, if_neg wide, ok_bind, if_neg (by omega)]
  rcases (ModulationClass.isTabled_iff _).mp tabled with modulation | modulation | modulation |
    modulation <;>
  · rw [modulation] at taken symbolTime ⊢
    dsimp only
    rw [taken, ok_bind, guardTime_eq, ok_bind, symbolTime, bitsPerSymbol_of_pos points, ok_bind,
      ofInt_eq, lift_ok, ok_bind, quotient, lift_error]

theorem phyRate_eq_ok_of_plain
    (plain : mode.modulation.isPlain) (points : 0 < mode.constellation) {rate : Exact tail}
    (answered : mode.phyRate width streams guardInterval = .ok rate) :
    rate = mode.plainRate width := by
  by_cases wide : width ≤ 0.0
  · rw [phyRate_of_narrow wide] at answered
    cases answered
  by_cases some : 1 ≤ streams
  · rw [phyRate_plain plain points wide some] at answered
    exact (Except.ok.inj answered).symm
  · rw [phyRate_of_no_stream wide (not_le.mp some)] at answered
    cases answered

theorem phyRate_eq_ok_of_tabled
    (tabled : mode.modulation.isTabled) (points : 0 < mode.constellation) {rate : Exact tail}
    (answered : mode.phyRate width streams guardInterval = .ok rate) :
    1 ≤ streams ∧
      ∃ carriers, 1 ≤ carriers ∧ subcarriers mode.modulation width = .ok carriers ∧
        rate = finite (mode.tabledRate carriers streams guardInterval) := by
  by_cases wide : width ≤ 0.0
  · rw [phyRate_of_narrow wide] at answered
    cases answered
  by_cases some : 1 ≤ streams
  · refine ⟨some, ?_⟩
    cases taken : subcarriers mode.modulation width with
    | error fault =>
        rw [phyRate_of_untaken tabled wide some taken] at answered
        cases answered
    | ok carriers =>
        refine ⟨carriers, one_le_subcarriers taken, rfl, ?_⟩
        by_cases time : symbolNanoseconds mode.modulation guardInterval = 0
        · rw [phyRate_of_no_time tabled points wide some taken time] at answered
          cases answered
        · rw [phyRate_tabled tabled points wide some taken time] at answered
          exact (Except.ok.inj answered).symm
  · rw [phyRate_of_no_stream wide (not_le.mp some)] at answered
    cases answered

theorem plainRate_finite (w : ℝ) :
    mode.plainRate (finite w) = finite (48 * mode.bits * (min w 20 / 20) / 4e-6) := by
  have micro : (4e-6 : ℝ) ≠ 0 := by norm_num
  have twenty : (20.0 : ℝ) ≠ 0 := by norm_num
  rw [plainRate, ofScientific_eq, ofScientific_eq, least_finite, finite_div_finite _ twenty,
    finite_mul_finite, finite_div_finite _ micro]
  norm_num

/-- 20 MHz are all that a plain mode fills of an unbounded channel. -/
theorem plainRate_infinite : mode.plainRate (infinite false) = mode.plainRate (finite 20) := by
  have wider : (20.0 : Exact tail) < infinite false := rfl
  have same : ¬(20.0 : Exact tail) < finite 20 := by
    rw [ofScientific_eq, finite_lt_finite]
    norm_num
  rw [plainRate, plainRate, Scalar.least, if_pos wider, Scalar.least, if_neg same,
    twenty_eq_finite]

/-! ## Sign and order -/

section Order

variable (points : 0 < mode.constellation)
include points

theorem carriedBits_nonneg {carriers : Int} (carried : 1 ≤ carriers) (some : 1 ≤ streams) :
    (0 : ℝ) ≤ (carriers * mode.bits * streams : Int) := by
  have bits := bits_nonneg points
  exact_mod_cast mul_nonneg (mul_nonneg (by omega) bits) (by omega)

/-- A rate that is above zero takes a symbol that lasts. -/
theorem symbolNanoseconds_pos_of_tabledRate_pos
    {carriers : Int} (carried : 1 ≤ carriers) (some : 1 ≤ streams)
    (positive : 0 < mode.tabledRate carriers streams guardInterval) :
    0 < symbolNanoseconds mode.modulation guardInterval := by
  by_contra short
  have time : (symbolNanoseconds mode.modulation guardInterval : ℝ) ≤ 0 := by
    exact_mod_cast not_lt.mp short
  have carriedBits := carriedBits_nonneg points carried some
  have nonpos : mode.tabledRate carriers streams guardInterval ≤ 0 :=
    div_nonpos_of_nonneg_of_nonpos carriedBits
      (mul_nonpos_of_nonpos_of_nonneg time (by norm_num))
  exact absurd positive (not_lt.mpr nonpos)

/-- More streams carry more bits. -/
theorem tabledRate_mono_streams
    {carriers streams' : Int} (carried : 1 ≤ carriers) (more : streams ≤ streams')
    (time : 0 < symbolNanoseconds mode.modulation guardInterval) :
    mode.tabledRate carriers streams guardInterval ≤
      mode.tabledRate carriers streams' guardInterval := by
  have bits := bits_nonneg points
  have carriedBits : carriers * mode.bits * streams ≤ carriers * mode.bits * streams' :=
    mul_le_mul_of_nonneg_left more (mul_nonneg (by omega) bits)
  have timeReal : (0 : ℝ) < symbolNanoseconds mode.modulation guardInterval := by
    exact_mod_cast time
  unfold tabledRate
  gcongr

/-- A longer guard interval slows a mode down. -/
theorem tabledRate_antitone_guardInterval
    {carriers guardInterval' : Int} (carried : 1 ≤ carriers) (some : 1 ≤ streams)
    (longer : guardInterval ≤ guardInterval')
    (time : 0 < symbolNanoseconds mode.modulation guardInterval) :
    mode.tabledRate carriers streams guardInterval' ≤
      mode.tabledRate carriers streams guardInterval := by
  have carriedBits := carriedBits_nonneg points carried some
  have timeReal : (0 : ℝ) < symbolNanoseconds mode.modulation guardInterval := by
    exact_mod_cast time
  have lasts : (symbolNanoseconds mode.modulation guardInterval : ℝ) ≤
      symbolNanoseconds mode.modulation guardInterval' := by
    unfold symbolNanoseconds
    exact_mod_cast Int.add_le_add_left longer _
  unfold tabledRate
  gcongr

variable (coded : mode.isCodedOfdm)
include coded

theorem phyRate_mono_streams
    {streams' : Int} (more : streams ≤ streams') {rate rate' : ENNReal} (positive : 0 < rate)
    (slower : mode.phyRate width streams guardInterval = .ok (extend rate))
    (faster : mode.phyRate width streams' guardInterval = .ok (extend rate')) :
    rate ≤ rate' := by
  rw [← @extend_le_extend tail]
  rcases (ModulationClass.isCodedOfdm_iff _).mp coded with plain | tabled
  · rw [phyRate_eq_ok_of_plain plain points slower, ← phyRate_eq_ok_of_plain plain points faster,
      extend_le_extend]
  · obtain ⟨some, carriers, carried, taken, rate_eq⟩ :=
      phyRate_eq_ok_of_tabled tabled points slower
    obtain ⟨_, carriers', _, taken', rate_eq'⟩ := phyRate_eq_ok_of_tabled tabled points faster
    obtain rfl : carriers = carriers' := Except.ok.inj (taken.symm.trans taken')
    have time := symbolNanoseconds_pos_of_tabledRate_pos points carried some
      (finite_pos_of_eq_extend positive rate_eq.symm)
    rw [rate_eq, rate_eq', finite_le_finite]
    exact tabledRate_mono_streams points carried more time

theorem phyRate_antitone_guardInterval
    {guardInterval' : Int} (longer : guardInterval ≤ guardInterval')
    {rate rate' : ENNReal} (positive : 0 < rate)
    (faster : mode.phyRate width streams guardInterval = .ok (extend rate))
    (slower : mode.phyRate width streams guardInterval' = .ok (extend rate')) :
    rate' ≤ rate := by
  rw [← @extend_le_extend tail]
  rcases (ModulationClass.isCodedOfdm_iff _).mp coded with plain | tabled
  · rw [phyRate_eq_ok_of_plain plain points slower, ← phyRate_eq_ok_of_plain plain points faster,
      extend_le_extend]
  · obtain ⟨some, carriers, carried, taken, rate_eq⟩ :=
      phyRate_eq_ok_of_tabled tabled points faster
    obtain ⟨_, carriers', _, taken', rate_eq'⟩ := phyRate_eq_ok_of_tabled tabled points slower
    obtain rfl : carriers = carriers' := Except.ok.inj (taken.symm.trans taken')
    have time := symbolNanoseconds_pos_of_tabledRate_pos points carried some
      (finite_pos_of_eq_extend positive rate_eq.symm)
    rw [rate_eq, rate_eq', finite_le_finite]
    exact tabledRate_antitone_guardInterval points carried some longer time

/-- A plain rate has a bound of its own, and a table lists real widths only. -/
theorem phyRate_ne_infinite
    {rate : Exact tail}
    (answered : mode.phyRate width streams guardInterval = .ok rate) :
    rate ≠ infinite false := by
  rcases (ModulationClass.isCodedOfdm_iff _).mp coded with plain | tabled
  · cases width with
    | finite w =>
        rw [phyRate_eq_ok_of_plain plain points answered, plainRate_finite]
        exact nofun
    | infinite negative =>
        cases negative with
        | true =>
            rw [phyRate_of_narrow rfl] at answered
            cases answered
        | false =>
            rw [phyRate_eq_ok_of_plain plain points answered, plainRate_infinite, plainRate_finite]
            exact nofun
    | notANumber =>
        have missing : Scalar.least (notANumber : Exact tail) 20.0 = notANumber :=
          if_neg id
        rw [phyRate_eq_ok_of_plain plain points answered, plainRate, missing, notANumber_div,
          mul_notANumber, notANumber_div]
        exact nofun
  · obtain ⟨_, carriers, _, _, rate_eq⟩ := phyRate_eq_ok_of_tabled tabled points answered
    rw [rate_eq]
    exact nofun

end Order

/-! ## Rates at real widths -/

section RealWidth

variable {w : ℝ} (widthPositive : 0 < w)
include widthPositive

theorem not_finite_nonpos : ¬(finite w : Exact tail) ≤ 0.0 := by
  rw [finite_nonpos_iff]
  exact not_le.mpr widthPositive

omit widthPositive in
theorem not_twenty_nonpos : ¬(finite 20 : Exact tail) ≤ 0.0 :=
  not_finite_nonpos (by norm_num)

theorem refused_phyRate
    (lacking : streams < 1 ∨
      (mode.modulation.isTabled ∧ ¬TakesWidth mode.modulation (finite w : Exact tail))) :
    Refused (mode.phyRate (finite w) streams guardInterval) := by
  have wide := @not_finite_nonpos tail w widthPositive
  by_cases some : 1 ≤ streams
  · obtain ⟨tabled, untaken⟩ := lacking.resolve_left (not_lt.mpr some)
    obtain ⟨fault, error, refuses⟩ := refused_subcarriers untaken
    rw [phyRate_of_untaken tabled wide some error]
    exact refused_error refuses
  · rw [phyRate_of_no_stream wide (not_le.mp some)]
    exact refused_error rfl

variable (points : 2 ≤ mode.constellation) (some : 1 ≤ streams)
include points some

theorem phyRate_of_lasting
    (coded : mode.isCodedOfdm)
    (takes : mode.modulation.isTabled → TakesWidth mode.modulation (finite w : Exact tail))
    (time : mode.modulation.isTabled → 0 < symbolNanoseconds mode.modulation guardInterval) :
    ∃ rate : ℝ, 0 < rate ∧
      mode.phyRate (finite w) streams guardInterval = .ok (finite rate) := by
  have wide := @not_finite_nonpos tail w widthPositive
  have bits : (1 : ℝ) ≤ mode.bits := by exact_mod_cast one_le_bits points
  rcases (ModulationClass.isCodedOfdm_iff _).mp coded with plain | tabled
  · refine ⟨48 * mode.bits * (min w 20 / 20) / 4e-6, ?_, ?_⟩
    · have share : 0 < min w 20 := lt_min widthPositive (by norm_num)
      positivity
    · rw [phyRate_plain plain (by omega) wide some, plainRate_finite]
  · obtain ⟨carriers, taken⟩ := subcarriers_of_takesWidth (takes tabled)
    refine ⟨mode.tabledRate carriers streams guardInterval, ?_,
      phyRate_tabled tabled (by omega) wide some taken (time tabled).ne'⟩
    have carried : (1 : ℝ) ≤ carriers := by exact_mod_cast one_le_subcarriers taken
    have flow : (1 : ℝ) ≤ streams := by exact_mod_cast some
    have lasts : (0 : ℝ) < symbolNanoseconds mode.modulation guardInterval := by
      exact_mod_cast time tabled
    unfold tabledRate
    push_cast
    positivity

/-- A negative guard interval longer than the symbol makes the rate negative. -/
theorem phyRate_of_negative_time
    (tabled : mode.modulation.isTabled)
    (takes : TakesWidth mode.modulation (finite w : Exact tail))
    (time : symbolNanoseconds mode.modulation guardInterval < 0) :
    ∃ rate : ℝ, rate < 0 ∧
      mode.phyRate (finite w) streams guardInterval = .ok (finite rate) := by
  have wide := @not_finite_nonpos tail w widthPositive
  obtain ⟨carriers, taken⟩ := subcarriers_of_takesWidth takes
  refine ⟨mode.tabledRate carriers streams guardInterval, ?_,
    phyRate_tabled tabled (by omega) wide some taken time.ne⟩
  have bits : (1 : ℝ) ≤ mode.bits := by exact_mod_cast one_le_bits points
  have carried : (1 : ℝ) ≤ carriers := by exact_mod_cast one_le_subcarriers taken
  have flow : (1 : ℝ) ≤ streams := by exact_mod_cast some
  have lasts : (symbolNanoseconds mode.modulation guardInterval : ℝ) < 0 := by
    exact_mod_cast time
  unfold tabledRate
  push_cast
  exact div_neg_of_pos_of_neg (by positivity) (mul_neg_of_neg_of_pos lasts (by norm_num))

end RealWidth

/-! ## Rates of one class -/

section OneClass

variable {first second : WifiMode (Exact tail)} (coded : first.isCodedOfdm)
  (modulation : second.modulation = first.modulation)
  (points : 2 ≤ first.constellation) (points' : 2 ≤ second.constellation)
include points

theorem plainRate_of_bits {r : ℝ} (sent : first.plainRate width = finite r) :
    second.plainRate width = finite (second.bits / first.bits * r) := by
  have bits : (first.bits : ℝ) ≠ 0 := by
    have := one_le_bits points
    exact_mod_cast (by omega : first.bits ≠ 0)
  have micro : (4e-6 : ℝ) ≠ 0 := by norm_num
  unfold plainRate at sent ⊢
  cases share : (Scalar.least width 20.0 / 20.0 : Exact tail) with
  | finite s =>
      rw [share, ofScientific_eq, finite_mul_finite, finite_div_finite _ micro] at sent
      obtain rfl := Exact.finite.inj sent
      rw [ofScientific_eq, finite_mul_finite, finite_div_finite _ micro]
      push_cast
      congr 1
      field_simp
  | infinite negative =>
      rw [share] at sent
      exact absurd sent (mul_infinite_div_ne_finite _ _ _ _)
  | notANumber =>
      rw [share, mul_notANumber, notANumber_div] at sent
      cases sent

include coded modulation points' in
/-- The rates of one class differ as the bits of a symbol do. -/
theorem phyRate_of_bits {r : ℝ}
    (sent : first.phyRate width streams guardInterval = .ok (finite r)) :
    second.phyRate width streams guardInterval = .ok (finite (second.bits / first.bits * r)) := by
  have bits : (first.bits : ℝ) ≠ 0 := by
    have := one_le_bits points
    exact_mod_cast (by omega : first.bits ≠ 0)
  by_cases wide : width ≤ 0.0
  · rw [phyRate_of_narrow wide] at sent
    cases sent
  by_cases some : 1 ≤ streams
  · rcases (ModulationClass.isCodedOfdm_iff _).mp coded with plain | tabled
    · have plain' := plain
      rw [← modulation] at plain'
      rw [phyRate_plain plain (by omega) wide some] at sent
      rw [phyRate_plain plain' (by omega) wide some, plainRate_of_bits points (Except.ok.inj sent)]
    · obtain ⟨_, carriers, _, taken, equality⟩ := phyRate_eq_ok_of_tabled tabled (by omega) sent
      have time : symbolNanoseconds first.modulation guardInterval ≠ 0 := by
        intro missing
        rw [phyRate_of_no_time tabled (by omega) wide some taken missing] at sent
        cases sent
      obtain rfl := Exact.finite.inj equality
      rw [← modulation] at tabled taken time
      rw [phyRate_tabled tabled (by omega) wide some taken time, tabledRate, tabledRate, modulation]
      push_cast
      congr 2
      field_simp
  · rw [phyRate_of_no_stream wide (not_le.mp some)] at sent
    cases sent

end OneClass

end WifiMode

end WifiLink
