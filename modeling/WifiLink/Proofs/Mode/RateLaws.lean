import WifiLink.Proofs.Exact.GaussianTail
import WifiLink.Proofs.Transmission

/-!
# Laws of coded rates

For which widths a coded mode has a rate, and how the rate changes with width, streams, guard
interval and code rate. A wider channel is never slower, also where the shares of the 20 MHz
channel end and the table begins.
-/

namespace WifiLink

open Exact

variable {tail : ErrorTail}

/-! ## Subcarriers by width -/

section Subcarriers

variable {modulation : ModulationClass} {width width' : Exact tail} {carriers carriers' : Int}

/-- What a table lists is a width from 20 MHz on, with the subcarriers of 20 MHz at least. -/
theorem twenty_le_of_mem_subcarrierTable
    (listed : (width, carriers) ∈ (subcarrierTable modulation : List (Exact tail × Int))) :
    (∃ w : ℝ, width = finite w ∧ 20 ≤ w) ∧ baseSubcarriers modulation ≤ carriers := by
  have all : ∀ entry ∈ (subcarrierTable modulation : List (Exact tail × Int)),
      (∃ w : ℝ, entry.1 = finite w ∧ 20 ≤ w) ∧ baseSubcarriers modulation ≤ entry.2 := by
    cases modulation <;> norm_num [subcarrierTable, baseSubcarriers]
  exact all _ listed

private theorem le_of_mem_subcarrierTable
    (listed : (width, carriers) ∈ (subcarrierTable modulation : List (Exact tail × Int)))
    (listed' : (width', carriers') ∈ (subcarrierTable modulation : List (Exact tail × Int)))
    (ordered : width ≤ width') :
    carriers ≤ carriers' := by
  have rises : (subcarrierTable modulation : List (Exact tail × Int)).Pairwise
      fun near far => near.1 ≤ far.1 → near.2 ≤ far.2 := by
    cases modulation <;> norm_num [subcarrierTable]
  have apart : (subcarrierTable modulation : List (Exact tail × Int)).Pairwise
      (flip fun near far => near.1 ≤ far.1 → near.2 ≤ far.2) := by
    cases modulation <;> norm_num [subcarrierTable, flip]
  exact rises.forall_of_forall_of_flip (fun _ _ _ => le_rfl) apart listed listed' ordered

/-- Subcarriers are listed, or they are a share of those of the 20 MHz channel. -/
theorem subcarriers_cases (taken : subcarriers modulation width = .ok carriers) :
    (width, carriers) ∈ (subcarrierTable modulation : List (Exact tail × Int)) ∨
      ∃ w : ℝ, width = finite w ∧ w < 20 ∧
        carriers = max 1 ⌊(baseSubcarriers modulation * w / 20 : ℝ)⌋ := by
  unfold subcarriers at taken
  split at taken
  · next entry found =>
    cases taken
    have same : width = entry.1 := eq_of_same (by simpa using List.find?_some found)
    left
    rw [same]
    exact List.mem_of_find?_eq_some found
  · split_ifs at taken with narrow
    rw [ofInt_eq, lift_ok, ok_bind, twenty_eq_finite] at taken
    obtain ⟨share, floored, value⟩ := bind_eq_ok_iff.mp taken
    rw [twenty_eq_finite] at narrow
    right
    cases width with
    | finite w =>
        rw [finite_mul_finite, finite_div_finite _ (by norm_num), floor_finite, lift_ok] at floored
        obtain rfl := Except.ok.inj floored
        exact ⟨w, rfl, narrow, (Except.ok.inj value).symm⟩
    | infinite negative =>
        cases answer : Scalar.floor
            (finite (baseSubcarriers modulation) * infinite negative / finite 20 : Exact tail) with
        | error cause =>
            rw [answer, lift_error] at floored
            cases floored
        | ok value =>
            obtain ⟨r, real, _⟩ := floor_eq_ok answer
            exact absurd real (mul_infinite_div_ne_finite _ _ _ _)
    | notANumber => exact narrow.elim

private theorem subcarriers_mono
    (ordered : width ≤ width')
    (taken : subcarriers modulation width = .ok carriers)
    (taken' : subcarriers modulation width' = .ok carriers') :
    carriers ≤ carriers' := by
  have base : (0 : ℝ) ≤ baseSubcarriers modulation := by
    cases modulation <;> norm_num [baseSubcarriers]
  rcases subcarriers_cases taken with listed | ⟨w, rfl, narrow, rfl⟩ <;>
    rcases subcarriers_cases taken' with listed' | ⟨w', rfl, narrow', rfl⟩
  · exact le_of_mem_subcarrierTable listed listed' ordered
  · obtain ⟨⟨w, rfl, wide⟩, _⟩ := twenty_le_of_mem_subcarrierTable listed
    rw [finite_le_finite] at ordered
    linarith
  · -- A share stays below the whole, with which the table begins.
    obtain ⟨_, whole⟩ := twenty_le_of_mem_subcarrierTable listed'
    have share : (baseSubcarriers modulation * w / 20 : ℝ) < baseSubcarriers modulation + 1 := by
      nlinarith
    have one : 1 ≤ baseSubcarriers modulation := by
      cases modulation <;> decide
    exact (max_le one (Int.floor_le_iff.mpr share)).trans whole
  · rw [finite_le_finite] at ordered
    have share : (baseSubcarriers modulation * w / 20 : ℝ) ≤
        baseSubcarriers modulation * w' / 20 := by
      gcongr
    exact max_le_max_left 1 (Int.floor_le_floor share)

/-- A width above zero has subcarriers only if it is real. -/
theorem exists_finite_of_takesWidth
    (wide : ¬width ≤ 0.0) (takes : TakesWidth modulation width) :
    ∃ w : ℝ, 0 < w ∧ width = finite w := by
  rcases takes with narrow | listed
  · rw [zero_eq_finite] at wide
    rw [twenty_eq_finite] at narrow
    cases width with
    | finite w => exact ⟨w, not_le.mp wide, rfl⟩
    | infinite negative => exact absurd narrow wide
    | notANumber => exact narrow.elim
  · obtain ⟨⟨_, carriers⟩, member, rfl⟩ := List.mem_map.mp listed
    obtain ⟨⟨w, real, large⟩, _⟩ := twenty_le_of_mem_subcarrierTable member
    exact ⟨w, by linarith, real⟩

/-- A width is above zero, and where the class has a table it is below 20 MHz or listed. -/
def AcceptsWidth (modulation : ModulationClass) (width : Exact tail) : Prop :=
  0.0 < width ∧ (modulation.isTabled → TakesWidth modulation width)

end Subcarriers

/-- A symbol takes time. The guard interval of a plain class has no part in it. -/
def SymbolLasts (modulation : ModulationClass) (guardInterval : Int) : Prop :=
  modulation.isTabled → 0 < symbolNanoseconds modulation guardInterval

namespace WifiMode

variable {mode : WifiMode (Exact tail)} {width width' : Exact tail}
  {streams guardInterval guardInterval' : Int}

private theorem not_nonpos_of_phyRate {rate : Exact tail}
    (sent : mode.phyRate width streams guardInterval = .ok rate) : ¬width ≤ 0.0 := by
  intro narrow
  rw [phyRate_of_narrow narrow] at sent
  cases sent

/-! ## Plain rates -/

section Plain

variable (plain : mode.modulation.isPlain) (points : 0 < mode.constellation)
include plain points

/-- Neither streams nor guard interval count. -/
theorem phyRate_of_plain (some : 1 ≤ streams) :
    mode.phyRate width streams guardInterval = mode.phyRate width := by
  by_cases wide : width ≤ 0.0
  · rw [phyRate_of_narrow wide, phyRate_of_narrow wide]
  · rw [phyRate_plain plain points wide some, phyRate_plain plain points wide le_rfl]

omit plain points in
private theorem plainRate_of_wide (wide : 20.0 ≤ width) :
    mode.plainRate width = mode.plainRate 20.0 := by
  rw [twenty_eq_finite] at wide ⊢
  cases width with
  | finite w =>
      rw [finite_le_finite] at wide
      rw [plainRate_finite, plainRate_finite, min_eq_right wide, min_self]
  | infinite negative =>
      obtain rfl : negative = false := wide
      exact plainRate_infinite
  | notANumber => exact wide.elim

private theorem phyRate_of_wide (wide : 20.0 ≤ width) (some : 1 ≤ streams) :
    mode.phyRate width streams guardInterval = mode.phyRate 20.0 streams guardInterval := by
  have twenty : ¬(20.0 : Exact tail) ≤ 0.0 := by norm_num
  have above : ¬width ≤ 0.0 := fun narrow => twenty (atMost_trans wide narrow)
  rw [phyRate_plain plain points above some, phyRate_plain plain points twenty some,
    plainRate_of_wide wide]

omit plain points in
private theorem plainRate_extend (w : ENNReal) :
    mode.plainRate (extend w) = finite (48 * mode.bits * ((min w 20).toReal / 20) / 4e-6) := by
  have twenty : (20 : ENNReal) ≠ ⊤ := by norm_num
  induction w with
  | top => rw [extend_top, plainRate_infinite, plainRate_finite, min_self, top_inf_eq]; rfl
  | coe w =>
      rw [extend_of_ne_top ENNReal.coe_ne_top, plainRate_finite,
        ENNReal.toReal_min ENNReal.coe_ne_top twenty]
      rfl

omit plain in
private theorem plainRate_mono {w w' : ENNReal} (ordered : w ≤ w') {rate rate' : ℝ}
    (sent : finite rate = mode.plainRate (extend w))
    (sent' : finite rate' = mode.plainRate (extend w')) :
    rate ≤ rate' := by
  have bits : (0 : ℝ) ≤ mode.bits := by exact_mod_cast bits_nonneg points
  have bounded : min w' 20 ≠ ⊤ := ne_top_of_le_ne_top (by norm_num) (min_le_right w' 20)
  have share : (min w 20).toReal ≤ (min w' 20).toReal :=
    ENNReal.toReal_mono bounded (min_le_min_right 20 ordered)
  rw [plainRate_extend] at sent sent'
  rw [Exact.finite.inj sent, Exact.finite.inj sent']
  gcongr

end Plain

/-! ## Rates with a table -/

section Tabled

variable (points : 0 < mode.constellation) {carriers carriers' : Int}

private theorem tabledRate_mul_streams :
    mode.tabledRate carriers streams guardInterval =
      streams * mode.tabledRate carriers 1 guardInterval := by
  unfold tabledRate
  push_cast
  ring

include points in
private theorem tabledRate_mono_carriers
    (fewer : carriers ≤ carriers') (some : 1 ≤ streams)
    (time : 0 < symbolNanoseconds mode.modulation guardInterval) :
    mode.tabledRate carriers streams guardInterval ≤
      mode.tabledRate carriers' streams guardInterval := by
  have bits := bits_nonneg points
  have carriedBits : carriers * mode.bits * streams ≤ carriers' * mode.bits * streams :=
    mul_le_mul_of_nonneg_right (mul_le_mul_of_nonneg_right fewer bits) (by omega)
  have timeReal : (0 : ℝ) < symbolNanoseconds mode.modulation guardInterval := by
    exact_mod_cast time
  unfold tabledRate
  gcongr

variable (tabled : mode.modulation.isTabled)
include points tabled

/-- Each stream adds the rate of one. -/
theorem phyRate_mul_streams
    (some : 1 ≤ streams) (time : 0 < symbolNanoseconds mode.modulation guardInterval) {rate : ℝ}
    (sent : mode.phyRate width 1 guardInterval = .ok (finite rate)) :
    mode.phyRate width streams guardInterval = .ok (finite (streams * rate)) := by
  obtain ⟨_, carriers, _, taken, value⟩ := phyRate_eq_ok_of_tabled tabled points sent
  rw [phyRate_tabled tabled points (not_nonpos_of_phyRate sent) some taken time.ne',
    tabledRate_mul_streams, Exact.finite.inj value]

private theorem exists_phyRate_of_longer
    (longer : guardInterval ≤ guardInterval')
    (time : 0 < symbolNanoseconds mode.modulation guardInterval) {rate : ℝ}
    (sent : mode.phyRate width streams guardInterval = .ok (finite rate)) :
    ∃ rate' ≤ rate, mode.phyRate width streams guardInterval' = .ok (finite rate') := by
  obtain ⟨some, carriers, carried, taken, value⟩ := phyRate_eq_ok_of_tabled tabled points sent
  have time' : symbolNanoseconds mode.modulation guardInterval' ≠ 0 := by
    unfold symbolNanoseconds at time ⊢
    omega
  refine ⟨_, ?_, phyRate_tabled tabled points (not_nonpos_of_phyRate sent) some taken time'⟩
  rw [Exact.finite.inj value]
  exact tabledRate_antitone_guardInterval points carried some longer time

end Tabled

/-! ## Every coded class -/

section Coded

variable (coded : mode.isCodedOfdm)
include coded

private theorem phyRate_mono_width
    (points : 0 < mode.constellation) (lasts : SymbolLasts mode.modulation guardInterval)
    (ordered : width ≤ width') {rate rate' : ℝ}
    (sent : mode.phyRate width streams guardInterval = .ok (finite rate))
    (sent' : mode.phyRate width' streams guardInterval = .ok (finite rate')) :
    rate ≤ rate' := by
  rcases (ModulationClass.isCodedOfdm_iff _).mp coded with plain | tabled
  · have wide := not_nonpos_of_phyRate sent
    have wide' := not_nonpos_of_phyRate sent'
    rw [zero_eq_finite] at wide wide'
    rcases exists_extend_of_not_nonpos wide with rfl | ⟨w, _, rfl⟩
    · exact absurd ordered (not_notANumber_le _)
    rcases exists_extend_of_not_nonpos wide' with rfl | ⟨w', _, rfl⟩
    · exact absurd ordered (not_le_notANumber _)
    exact plainRate_mono points ((extend_le_extend w w').mp ordered)
      (phyRate_eq_ok_of_plain plain points sent) (phyRate_eq_ok_of_plain plain points sent')
  · obtain ⟨some, carriers, _, taken, value⟩ := phyRate_eq_ok_of_tabled tabled points sent
    obtain ⟨_, carriers', _, taken', value'⟩ := phyRate_eq_ok_of_tabled tabled points sent'
    rw [Exact.finite.inj value, Exact.finite.inj value']
    exact tabledRate_mono_carriers points (subcarriers_mono ordered taken taken') some
      (lasts tabled)

variable (some : 1 ≤ streams)
include some

private theorem exists_phyRate_of_acceptsWidth
    (points : 2 ≤ mode.constellation) (lasts : SymbolLasts mode.modulation guardInterval)
    (accepts : AcceptsWidth mode.modulation width) :
    ∃ rate : ℝ, 0 < rate ∧ mode.phyRate width streams guardInterval = .ok (finite rate) := by
  obtain ⟨positive, takes⟩ := accepts
  have wide : ¬width ≤ 0.0 := fun narrow => not_below_of_atMost narrow positive
  rcases (ModulationClass.isCodedOfdm_iff _).mp coded with plain | tabled
  · rw [zero_eq_finite] at positive
    obtain ⟨w, someWidth, rfl⟩ := exists_extend_of_pos positive
    refine ⟨_, ?_, by rw [phyRate_plain plain (by omega) wide some, plainRate_extend]⟩
    have bits : (1 : ℝ) ≤ mode.bits := by exact_mod_cast one_le_bits points
    have share : 0 < (min w 20).toReal :=
      ENNReal.toReal_pos (lt_min someWidth (by norm_num)).ne'
        (ne_top_of_le_ne_top (by norm_num) (min_le_right w 20))
    positivity
  · obtain ⟨w, someWidth, rfl⟩ := exists_finite_of_takesWidth wide (takes tabled)
    exact phyRate_of_lasting someWidth points some coded takes lasts

omit coded in
/-- Only a plain class takes a missing number for a width, and answers with it. -/
theorem refused_phyRate_of_not_acceptsWidth
    (number : mode.modulation.isTabled ∨ width ≠ notANumber)
    (unaccepted : ¬AcceptsWidth mode.modulation width) :
    Refused (mode.phyRate width streams guardInterval) := by
  by_cases wide : width ≤ 0.0
  · rw [phyRate_of_narrow wide]
    exact refused_error rfl
  · have untaken : mode.modulation.isTabled ∧ ¬TakesWidth mode.modulation width := by
      have above := wide
      rw [zero_eq_finite] at above
      rcases exists_extend_of_not_nonpos above with rfl | ⟨w, someWidth, rfl⟩
      · refine ⟨number.resolve_right (not_not.mpr rfl), fun takes => ?_⟩
        obtain ⟨_, _, real⟩ := exists_finite_of_takesWidth wide takes
        cases real
      · refine Classical.not_imp.mp fun takes => unaccepted ⟨?_, takes⟩
        rw [zero_eq_finite]
        exact extend_pos someWidth
    obtain ⟨fault, failed, refuses⟩ := refused_subcarriers untaken.2
    rw [phyRate_of_untaken untaken.1 wide some failed]
    exact refused_error refuses

end Coded

/-- How the coded rate of a mode depends on width, streams, guard interval and code rate. -/
structure RateLaws (mode : WifiMode (Exact tail)) : Prop where
  /-- An accepted width has a rate above zero. -/
  accepted : ∀ {width streams guardInterval}, 1 ≤ streams →
    SymbolLasts mode.modulation guardInterval → AcceptsWidth mode.modulation width →
      ∃ rate : ℝ, 0 < rate ∧ mode.phyRate width streams guardInterval = .ok (finite rate)
  /-- Every other number is refused as a width. -/
  refused : ∀ {width streams guardInterval}, 1 ≤ streams →
    mode.modulation.isTabled ∨ width ≠ notANumber → ¬AcceptsWidth mode.modulation width →
      Refused (mode.phyRate width streams guardInterval)
  /-- A wider channel is not slower. -/
  mono_width : ∀ {width width' streams guardInterval} {rate rate' : ℝ},
    SymbolLasts mode.modulation guardInterval → width ≤ width' →
      mode.phyRate width streams guardInterval = .ok (finite rate) →
        mode.phyRate width' streams guardInterval = .ok (finite rate') → rate ≤ rate'
  /-- The code rate does not matter. -/
  codeRate_irrelevant : ∀ codeRate width streams guardInterval,
    { mode with codeRate := codeRate }.phyRate width streams guardInterval =
      mode.phyRate width streams guardInterval
  /-- With a table, each stream adds the rate of one. -/
  mul_streams : mode.modulation.isTabled → ∀ {width streams guardInterval} {rate : ℝ},
    1 ≤ streams → SymbolLasts mode.modulation guardInterval →
      mode.phyRate width 1 guardInterval = .ok (finite rate) →
        mode.phyRate width streams guardInterval = .ok (finite (streams * rate))
  /-- With a table, a longer guard interval is not faster. -/
  antitone_guardInterval : mode.modulation.isTabled →
    ∀ {width streams guardInterval guardInterval'} {rate : ℝ},
      SymbolLasts mode.modulation guardInterval → guardInterval ≤ guardInterval' →
        mode.phyRate width streams guardInterval = .ok (finite rate) →
          ∃ rate' ≤ rate, mode.phyRate width streams guardInterval' = .ok (finite rate')
  /-- Without one, neither streams nor guard interval matter. -/
  plain_width : mode.modulation.isPlain → ∀ {streams}, 1 ≤ streams → ∀ width guardInterval,
    mode.phyRate width streams guardInterval = mode.phyRate width
  /-- Without one, the rate is that of 20 MHz from there on. -/
  plain_wide : mode.modulation.isPlain → ∀ {width streams}, 1 ≤ streams → 20.0 ≤ width →
    ∀ guardInterval, mode.phyRate width streams guardInterval =
      mode.phyRate 20.0 streams guardInterval

/-- A mode of a coded class has a rate for just the widths that the class accepts. There it is
positive and not slower on a wider channel, whatever the code rate; with a table it is the rate of
one stream for each stream, and not faster with a longer guard interval, and without one it
depends on the width up to 20 MHz alone. -/
theorem rateLaws_of_supported
    {mode : WifiMode (Exact tail)} (coded : mode.isCodedOfdm)
    (supported : mode.constellation ∈ constellationSizes) :
    mode.RateLaws := by
  have atLeastTwo : ∀ size ∈ constellationSizes, 2 ≤ size := by decide
  have points : 2 ≤ mode.constellation := atLeastTwo _ supported
  have positive : 0 < mode.constellation := by omega
  constructor
  case accepted =>
    intro width streams guardInterval some lasts accepts
    exact exists_phyRate_of_acceptsWidth coded some points lasts accepts
  case refused =>
    intro width streams guardInterval some number unaccepted
    exact refused_phyRate_of_not_acceptsWidth some number unaccepted
  case mono_width =>
    intro width width' streams guardInterval rate rate' lasts ordered sent sent'
    exact phyRate_mono_width coded positive lasts ordered sent sent'
  case codeRate_irrelevant =>
    intro codeRate width streams guardInterval
    exact phyRate_congr coded rfl rfl width streams guardInterval
  case mul_streams =>
    intro tabled width streams guardInterval rate some lasts sent
    exact phyRate_mul_streams positive tabled some (lasts tabled) sent
  case antitone_guardInterval =>
    intro tabled width streams guardInterval guardInterval' rate lasts longer sent
    exact exists_phyRate_of_longer positive tabled longer (lasts tabled) sent
  case plain_width =>
    intro plain streams some width guardInterval
    exact phyRate_of_plain plain positive some
  case plain_wide =>
    intro plain width streams some wide guardInterval
    exact phyRate_of_wide plain positive wide some

variable (tail) in
/-- The fastest mode. -/
noncomputable def ehtMode : WifiMode (Exact tail) where
  name := "EhtMcs13"
  modulation := .eht
  constellation := 4096
  codeRate := .fiveSixths
  fixedRate := finite 0

/-- Its rates with two streams on either side of the seam below 20 MHz. -/
theorem ehtMode_rateLaws :
    (ehtMode gaussianTail).isCodedOfdm ∧
      (ehtMode gaussianTail).constellation ∈ constellationSizes ∧
      (ehtMode gaussianTail).RateLaws ∧
      ∃ rate rate' : ℝ, 0 < rate ∧ rate ≤ rate' ∧
        (ehtMode gaussianTail).phyRate (finite 19.5) 2 1600 = .ok (finite rate) ∧
        (ehtMode gaussianTail).phyRate (finite 20) 2 1600 = .ok (finite rate') := by
  have supported : (ehtMode gaussianTail).constellation ∈ constellationSizes := by
    change (4096 : Int) ∈ constellationSizes
    decide
  have laws := @rateLaws_of_supported gaussianTail (ehtMode gaussianTail) rfl supported
  have some : (1 : Int) ≤ 2 := by decide
  have lasts : SymbolLasts (ehtMode gaussianTail).modulation 1600 := fun _ => by decide
  have narrow : AcceptsWidth (ehtMode gaussianTail).modulation (finite 19.5 : Exact gaussianTail) :=
    ⟨by norm_num, fun _ => .inl (by norm_num)⟩
  have whole : AcceptsWidth (ehtMode gaussianTail).modulation (finite 20 : Exact gaussianTail) :=
    ⟨by norm_num, fun _ => .inr (by norm_num [ehtMode, subcarrierTable])⟩
  obtain ⟨rate, positive, sent⟩ := laws.accepted some lasts narrow
  obtain ⟨rate', _, sent'⟩ := laws.accepted some lasts whole
  have ordered : (finite 19.5 : Exact gaussianTail) ≤ finite 20 := by norm_num
  exact ⟨rfl, supported, laws, rate, rate', positive,
    laws.mono_width lasts ordered sent sent', sent, sent'⟩

end WifiMode

end WifiLink
