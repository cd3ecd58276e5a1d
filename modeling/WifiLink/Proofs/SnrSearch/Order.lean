import WifiLink.Proofs.Estimate.CodeRate
import WifiLink.Proofs.SnrSearch.Outcome

/-!
# The order of answers

Two searches of one range look at the same ratios until one of them climbs where the other does
not. From then on the ratio at which they parted lies between their brackets. So a search that
climbs wherever another one does ends no lower, whatever the two curves look like.
-/

namespace WifiLink

open Exact

variable {tail : ErrorTail}

/-! ## Two runs -/

section Runs

variable {failure failure' : Exact tail → Except (Fault (Exact tail)) (Exact tail)}
  {target target' precision : Exact tail} {bottom top : ℝ}

section Same

variable {low low' high high' : ℝ} {few many steps : ℕ}

/-- No search goes on where another one of the same range has stopped. -/
theorem Searched.halvings_le
    (searched : Searched failure target precision bottom top few low high)
    (searched' : Searched failure' target' precision bottom top many low' high')
    (last : few = steps ∨ (Bracket.between low high).gap ≤ precision) (limited : many ≤ steps) :
    many ≤ few := by
  by_contra later
  rw [not_le] at later
  rcases last with all | narrow
  · omega
  · apply searched'.wide few later
    rw [gap_climbed_between, ← searched.width, ← Bracket.gap_between]
    exact narrow

end Same

section Step

variable
  (compares : ∀ {snr rate : Exact tail}, failure snr = .ok rate → target < rate ∨ rate ≤ target)
  {steps : ℕ} {final : Bracket (Exact tail)}
include compares

/-- A search goes on in one of the halves, whichever the middle is the better end of. -/
theorem bisect_between_succ
    (wide : ¬(Bracket.between bottom top).gap ≤ precision)
    (ended : bisect failure target precision (steps + 1) (.between bottom top) = .ok final) :
    (FailsTooOften failure target (finite (bottom + (top - bottom) / 2)) ∧
        bisect failure target precision steps
          (.between (bottom + (top - bottom) / 2) top) = .ok final) ∨
      (FailsSeldom failure target (finite (bottom + (top - bottom) / 2)) ∧
        bisect failure target precision steps
          (.between bottom (bottom + (top - bottom) / 2)) = .ok final) := by
  rw [bisect, if_neg wide, Bracket.middle_between] at ended
  obtain ⟨rate, failed, ended⟩ := bind_eq_ok_iff.mp ended
  rcases compares failed with above | below
  · rw [decide_eq_true above, Bracket.halve_between_true] at ended
    exact Or.inl ⟨⟨rate, failed, above⟩, ended⟩
  · rw [decide_eq_false (not_below_of_atMost below), Bracket.halve_between_false] at ended
    exact Or.inr ⟨⟨rate, failed, below⟩, ended⟩

/-- Nothing but what it finds makes a search narrow its range. -/
theorem exists_known_of_bisect
    (wide : ¬(Bracket.between bottom top).gap ≤ precision)
    (ended : bisect failure target precision steps (.between bottom top) = .ok final)
    (narrow : final.gap ≤ precision) :
    ∃ snr rate, failure snr = .ok rate := by
  cases steps with
  | zero =>
      obtain rfl : Bracket.between bottom top = final := Except.ok.inj ended
      exact absurd narrow wide
  | succ steps =>
      rcases bisect_between_succ @compares wide ended with
        ⟨⟨rate, failed, _⟩, _⟩ | ⟨⟨rate, failed, _⟩, _⟩ <;>
      exact ⟨_, rate, failed⟩

/-- The final bracket stays inside the range. -/
theorem bisect_between_bounds (ordered : bottom < top)
    (ended : bisect failure target precision steps (.between bottom top) = .ok final) :
    ∃ low high, final = .between low high ∧ bottom ≤ low ∧ low < high ∧ high ≤ top := by
  obtain ⟨halvings, _, ⟨low, high, rfl, searched⟩, _⟩ :=
    Searched.exists_of_bisect @compares ordered ended
  exact ⟨low, high, rfl, searched.bottom_le, searched.low_lt_high ordered, searched.le_top⟩

end Step

variable
  (compares : ∀ {snr rate : Exact tail}, failure snr = .ok rate → target < rate ∨ rate ≤ target)
  (compares' : ∀ {snr rate : Exact tail},
    failure' snr = .ok rate → target' < rate ∨ rate ≤ target')
  {steps : ℕ} {final final' : Bracket (Exact tail)} (ordered : bottom < top)
  (ended : bisect failure target precision steps (.between bottom top) = .ok final)
  (ended' : bisect failure' target' precision steps (.between bottom top) = .ok final')
include compares compares' ordered ended ended'

/-- How narrow the final bracket is has nothing to do with what the search finds. -/
theorem gap_eq_of_bisect : final.gap = final'.gap := by
  obtain ⟨few, limited, ⟨low, high, rfl, searched⟩, last⟩ :=
    Searched.exists_of_bisect @compares ordered ended
  obtain ⟨many, limited', ⟨low', high', rfl, searched'⟩, last'⟩ :=
    Searched.exists_of_bisect @compares' ordered ended'
  obtain rfl : few = many :=
    le_antisymm (searched'.halvings_le searched last' limited)
      (searched.halvings_le searched' last limited')
  rw [Bracket.gap_between, Bracket.gap_between, searched.width, searched'.width]

/-- The search that climbs wherever the other one does ends no lower. -/
theorem low_le_of_bisect
    (climbs : ∀ {snr : Exact tail}, FailsTooOften failure target snr →
      FailsTooOften failure' target' snr) :
    final.low ≤ final'.low := by
  induction steps generalizing bottom top with
  | zero =>
      obtain rfl : final = final' := Except.ok.inj (ended.symm.trans ended')
      obtain ⟨low, _, rfl, _⟩ := bisect_between_bounds @compares ordered ended
      exact (finite_le_finite low low).mpr le_rfl
  | succ steps inductionHypothesis =>
      by_cases narrow : (Bracket.between bottom top).gap ≤ precision
      · rw [bisect_of_narrow narrow] at ended ended'
        obtain rfl : final = final' := Except.ok.inj (ended.symm.trans ended')
        obtain rfl : Bracket.between bottom top = final := Except.ok.inj ended
        exact (finite_le_finite bottom bottom).mpr le_rfl
      · have lower : bottom < bottom + (top - bottom) / 2 := by linarith
        have upper : bottom + (top - bottom) / 2 < top := by linarith
        rcases bisect_between_succ @compares narrow ended with
          ⟨often, climbed⟩ | ⟨_, fallen⟩ <;>
        rcases bisect_between_succ @compares' narrow ended' with
          ⟨_, climbed'⟩ | ⟨seldom', fallen'⟩
        · exact inductionHypothesis upper climbed climbed'
        · exact absurd (climbs often) (not_failsTooOften_of_failsSeldom seldom')
        · -- Here the searches part, one below the middle and one above it.
          obtain ⟨low, high, rfl, _, proper, below⟩ :=
            bisect_between_bounds @compares lower fallen
          obtain ⟨low', high', rfl, above, _⟩ := bisect_between_bounds @compares' upper climbed'
          exact (finite_le_finite low low').mpr ((proper.le.trans below).trans above)
        · exact inductionHypothesis lower fallen fallen'

end Runs

/-! ## Two transmissions -/

namespace Transmission

private theorem searchSnr_eq_ok_iff
    {tx : Transmission (Exact tail)} {settings : Settings (Exact tail)}
    {mode : WifiMode (Exact tail)} {target : Exact tail}
    (inside : 0.0 < target ∧ target < 1.0) (own : tx.modeFor commonStation = .ok mode)
    (coded : mode.isCodedOfdm) {snr : Exact tail} :
    tx.searchSnr settings target = .ok snr ↔
      ∃ final, bisect (tx.bitFailure settings mode) target settings.searchPrecision
          settings.searchIterations.toNat settings.range = .ok final ∧
        final.gap ≤ settings.searchPrecision ∧ final.low = snr := by
  rw [searchSnr_of_mode inside own coded, bind_eq_ok_iff]
  simp only [ite_eq_iff, Except.ok.injEq, reduceCtorEq, and_false, or_false]

section Two

variable {settings : Settings (Exact tail)} (accepted : settings.checked = .ok settings)
  {tx tx' : Transmission (Exact tail)} {mode mode' : WifiMode (Exact tail)}
  (own : tx.modeFor commonStation = .ok mode) (own' : tx'.modeFor commonStation = .ok mode')
  (coded : mode.isCodedOfdm) (coded' : mode'.isCodedOfdm)
  {target target' : Exact tail}
  (inside : 0.0 < target ∧ target < 1.0) (inside' : 0.0 < target' ∧ target' < 1.0)
include accepted own own' coded coded' inside inside'

/-- Where one of two searches is answered, the other one is. -/
theorem exists_searchSnr_of_alike
    (alike : ∀ {snr : Exact tail}, (∃ rate, tx.bitFailure settings mode snr = .ok rate) →
      ∃ rate', tx'.bitFailure settings mode' snr = .ok rate')
    {snr : Exact tail} (answered : tx.searchSnr settings target = .ok snr) :
    ∃ snr', tx'.searchSnr settings target' = .ok snr' := by
  obtain ⟨final, ended, narrow, _⟩ := (searchSnr_eq_ok_iff inside own coded).mp answered
  suffices ended' : ∃ final', bisect (tx'.bitFailure settings mode') target'
      settings.searchPrecision settings.searchIterations.toNat settings.range = .ok final' ∧
        final'.gap ≤ settings.searchPrecision by
    obtain ⟨final', ended', narrow'⟩ := ended'
    exact ⟨_, (searchSnr_eq_ok_iff inside' own' coded').mpr ⟨final', ended', narrow', rfl⟩⟩
  -- A search that stops at once looks at no ratio. Any other one shows that ratios are known, and
  -- one known ratio makes all of them known to the other transmission.
  by_cases atOnce : settings.range.gap ≤ settings.searchPrecision
  · exact ⟨settings.range, bisect_of_narrow atOnce _, atOnce⟩
  obtain ⟨share, rfl⟩ := exists_real_of_inside inside
  obtain ⟨share', rfl⟩ := exists_real_of_inside inside'
  have compares := @bitFailure_compares tail tx settings mode coded share
  have compares' := @bitFailure_compares tail tx' settings mode' coded' share'
  obtain ⟨bottom, positive, ⟨top, ordered, range⟩ | unbounded⟩ :=
    Settings.range_of_checked accepted
  · rw [range] at ended atOnce ⊢
    obtain ⟨snr, rate, failed⟩ := exists_known_of_bisect @compares atOnce ended narrow
    obtain ⟨rate', failed'⟩ := alike ⟨rate, failed⟩
    have known' (other : ℝ) (audible : 0 < other) :
        ∃ rate, tx'.bitFailure settings mode' (finite other) = .ok rate :=
      exists_bitFailure coded' own' failed' audible
    obtain ⟨final', ended'⟩ := exists_bisect_between known' positive ordered
    refine ⟨final', ended', ?_⟩
    rw [← gap_eq_of_bisect @compares @compares' ordered ended ended']
    exact narrow
  · refine absurd (Settings.narrow_of_unbounded accepted unbounded ?_ narrow) atOnce
    exact Bracket.unbounded_of_bisect (Or.inl ⟨bottom, unbounded⟩) ended

private theorem searchSnr_le_of_climbs
    (climbs : ∀ {snr : Exact tail},
      FailsTooOften (tx.bitFailure settings mode) target snr →
        FailsTooOften (tx'.bitFailure settings mode') target' snr)
    {snr snr' : Exact tail} (answered : tx.searchSnr settings target = .ok snr)
    (answered' : tx'.searchSnr settings target' = .ok snr') :
    snr ≤ snr' := by
  obtain ⟨final, ended, narrow, rfl⟩ := (searchSnr_eq_ok_iff inside own coded).mp answered
  obtain ⟨final', ended', _, rfl⟩ := (searchSnr_eq_ok_iff inside' own' coded').mp answered'
  obtain ⟨share, rfl⟩ := exists_real_of_inside inside
  obtain ⟨share', rfl⟩ := exists_real_of_inside inside'
  obtain ⟨bottom, positive, ⟨top, ordered, range⟩ | unbounded⟩ :=
    Settings.range_of_checked accepted
  · rw [range] at ended ended'
    exact low_le_of_bisect (bitFailure_compares coded share) (bitFailure_compares coded' share')
      ordered ended ended' climbs
  · have atOnce := Settings.narrow_of_unbounded accepted unbounded
      (Bracket.unbounded_of_bisect (Or.inl ⟨bottom, unbounded⟩) ended) narrow
    rw [bisect_of_narrow atOnce] at ended ended'
    obtain rfl : final = final' := Except.ok.inj (ended.symm.trans ended')
    rw [← Except.ok.inj ended, unbounded]
    exact (finite_le_finite bottom bottom).mpr le_rfl

private theorem searchSnr_order_of_climbs
    (alike : ∀ {snr : Exact tail}, (∃ rate, tx.bitFailure settings mode snr = .ok rate) ↔
      ∃ rate', tx'.bitFailure settings mode' snr = .ok rate')
    (climbs : ∀ {snr : Exact tail},
      FailsTooOften (tx.bitFailure settings mode) target snr →
        FailsTooOften (tx'.bitFailure settings mode') target' snr) :
    ((∃ snr, tx.searchSnr settings target = .ok snr) ↔
      ∃ snr, tx'.searchSnr settings target' = .ok snr) ∧
    ∀ snr snr', tx.searchSnr settings target = .ok snr →
      tx'.searchSnr settings target' = .ok snr' → snr ≤ snr' := by
  refine ⟨⟨?_, ?_⟩, ?_⟩
  · rintro ⟨snr, answered⟩
    exact exists_searchSnr_of_alike accepted own own' coded coded' inside inside' alike.mp answered
  · rintro ⟨snr, answered⟩
    exact exists_searchSnr_of_alike accepted own' own coded' coded inside' inside alike.mpr answered
  · exact fun snr snr' =>
      searchSnr_le_of_climbs accepted own own' coded coded' inside inside' climbs

end Two

/-! ## Two code rates -/

section LowerRate

variable {settings : Settings (Exact tail)} {first second : WifiMode (Exact tail)}
  (lower : first.LowerRate second) (coded : first.isCodedOfdm)
  {tx tx' : Transmission (Exact tail)}
  (sameEnergy : ∀ snr, energyAt tx' (tx'.bitRate settings second) snr =
    energyAt tx (tx.bitRate settings first) snr)
  {snr : Exact tail}
include lower coded sameEnergy

private theorem exists_bitFailure_iff_of_lowerRate :
    (∃ rate, tx.bitFailure settings first snr = .ok rate) ↔
      ∃ rate, tx'.bitFailure settings second snr = .ok rate := by
  have coded' := lower.coded_iff.mpr coded
  constructor
  · rintro ⟨_, failed⟩
    obtain ⟨_, energy, _, known, _⟩ := (bitFailure_eq_ok_iff coded).mp failed
    obtain ⟨spectrum, listed⟩ := lower.listed_second
    exact ⟨_, (bitFailure_eq_ok_iff coded').mpr
      ⟨spectrum, energy, listed, (sameEnergy snr).trans known, rfl⟩⟩
  · rintro ⟨_, failed⟩
    obtain ⟨_, energy, _, known, _⟩ := (bitFailure_eq_ok_iff coded').mp failed
    obtain ⟨spectrum, listed⟩ := lower.listed_first
    exact ⟨_, (bitFailure_eq_ok_iff coded).mpr
      ⟨spectrum, energy, listed, (sameEnergy snr).symm.trans known, rfl⟩⟩

private theorem bitFailure_le_of_lowerRate {rate rate' : Exact tail}
    (failed : tx.bitFailure settings first snr = .ok rate)
    (failed' : tx'.bitFailure settings second snr = .ok rate') :
    rate ≤ rate' := by
  have coded' := lower.coded_iff.mpr coded
  obtain ⟨spectrum, energy, listed, known, rfl⟩ := (bitFailure_eq_ok_iff coded).mp failed
  obtain ⟨spectrum', energy', listed', known', rfl⟩ := (bitFailure_eq_ok_iff coded').mp failed'
  obtain rfl : energy = energy' :=
    extend_injective (Except.ok.inj (known.symm.trans ((sameEnergy snr).symm.trans known')))
  rw [lower.constellation_eq] at listed' ⊢
  have survives := @survivalShare_le_of_below tail _ _ _ _ _ listed listed' lower.below energy 1
  rw [finite_le_finite]
  linarith

private theorem failsTooOften_of_lowerRate {target : Exact tail}
    (often : FailsTooOften (tx.bitFailure settings first) target snr) :
    FailsTooOften (tx'.bitFailure settings second) target snr := by
  obtain ⟨rate, failed, above⟩ := often
  obtain ⟨rate', failed'⟩ :=
    (exists_bitFailure_iff_of_lowerRate lower coded sameEnergy).mp ⟨rate, failed⟩
  have ordered := bitFailure_le_of_lowerRate lower coded sameEnergy failed failed'
  exact ⟨rate', failed', below_of_below_of_atMost above ordered⟩

omit sameEnergy in
/-- A bit has one energy in both modes, as their rate does not depend on the code. -/
theorem energyAt_single_of_lowerRate
    {width : Exact tail} {streams guardInterval : Int} (wide : ¬width ≤ 0.0) (snr : Exact tail) :
    energyAt (single second width streams guardInterval wide)
        ((single second width streams guardInterval wide).bitRate settings second) snr =
      energyAt (single first width streams guardInterval wide)
        ((single first width streams guardInterval wide).bitRate settings first) snr := by
  have sent := WifiMode.phyRate_congr coded lower.modulation_eq lower.constellation_eq
    width streams guardInterval
  rw [bitRate_single, bitRate_single, sent]
  rfl

end LowerRate

private theorem searchSnr_single_ne_ok
    {mode : WifiMode (Exact tail)} {width : Exact tail} {streams guardInterval : Int}
    (wide : ¬width ≤ 0.0) {settings : Settings (Exact tail)} {target : Exact tail}
    (impossible : ¬((0.0 < target ∧ target < 1.0) ∧ mode.isCodedOfdm)) (snr : Exact tail) :
    (single mode width streams guardInterval wide).searchSnr settings target ≠ .ok snr := by
  intro answered
  obtain ⟨inside, payload, own, coded, _⟩ := searchSnr_eq_ok answered
  obtain rfl : mode = payload := Except.ok.inj own
  exact impossible ⟨inside, coded⟩

/-- What a single-user transmission is taken for, a bit of it can be asked about. -/
theorem exists_bitFailure_of_accepts
    {mode : WifiMode (Exact tail)} (coded : mode.isCodedOfdm) (listed : mode.Listed)
    (reflexive : mode.sameAs mode) {width : ℝ} {streams guardInterval : Int}
    (accepts : mode.modulation.Accepts tail width streams guardInterval)
    (wide : ¬(finite width : Exact tail) ≤ 0.0)
    (settings : Settings (Exact tail)) {snr : Exact tail} (valid : 0.0 ≤ snr) :
    ∃ rate,
      (single mode (finite width) streams guardInterval wide).bitFailure settings mode snr =
        .ok rate := by
  have made := singleUser_of_wide mode streams guardInterval wide
  have question : ValidQuestion { mode, snr, bits := .integer 1 } := ⟨valid, 1, rfl⟩
  obtain ⟨probability, answered⟩ :=
    exists_probability_of_accepts coded listed reflexive accepts made settings question
  rw [bitFailure_eq_successRate (modeFor_single wide commonStation) reflexive, successRate,
    answered]
  exact ⟨_, rfl⟩

end Transmission

/-! ## A sample -/

private theorem exists_searchSnr_bpskMode
    (wide : ¬(finite 20 : Exact gaussianTail) ≤ 0.0) {target : Exact gaussianTail}
    (inside : 0.0 < target ∧ target < 1.0) :
    ∃ snr, (Transmission.single (bpskMode gaussianTail "OfdmRate6Mbps" .half) (finite 20) 1 800
      wide).searchSnr .standard target = .ok snr := by
  obtain ⟨halvings, narrows⟩ := @standard_narrows gaussianTail
  have audible : (0.0 : Exact gaussianTail) ≤ Settings.standard.searchLow := by
    simp only [Settings.standard, ofScientific_eq, finite_le_finite]
    norm_num
  refine Transmission.exists_searchSnr_of_narrowsAfter standard_checked rfl rfl
    gaussianTail_antitone inside ?_ narrows
  exact Transmission.exists_bitFailure_of_accepts rfl bpskMode_lowerRate.listed_first
    (by simp [WifiMode.sameAs, bpskMode]) ofdm_accepts_twenty wide _ audible

/-- Of two targets the smaller one is answered just when the greater one is, and with no smaller
ratio, whatever the curve of failures looks like. Of two modes that differ in the code rate alone,
each in its single-user transmission, both are answered or none, the lower code rate with no
greater ratio. -/
theorem searchSnr_order
    (settings : Settings (Exact tail)) (accepted : settings.checked = .ok settings) :
    (∀ (tx : Transmission (Exact tail)) (target target' : Exact tail),
      0.0 < target → target ≤ target' → target' < 1.0 →
        ((∃ snr, tx.searchSnr settings target = .ok snr) ↔
          ∃ snr, tx.searchSnr settings target' = .ok snr) ∧
        ∀ snr snr', tx.searchSnr settings target = .ok snr →
          tx.searchSnr settings target' = .ok snr' → snr' ≤ snr) ∧
    (∀ first second : WifiMode (Exact tail), first.LowerRate second →
      ∀ (width : Exact tail) (streams guardInterval : Int) (tx tx' : Transmission (Exact tail)),
        Transmission.singleUser first width streams guardInterval = .ok tx →
        Transmission.singleUser second width streams guardInterval = .ok tx' →
          ∀ target : Exact tail,
            ((∃ snr, tx.searchSnr settings target = .ok snr) ↔
              ∃ snr, tx'.searchSnr settings target = .ok snr) ∧
            ∀ snr snr', tx.searchSnr settings target = .ok snr →
              tx'.searchSnr settings target = .ok snr' → snr ≤ snr') := by
  constructor
  · intro tx target target' positive ordered below
    have inside : 0.0 < target ∧ target < 1.0 :=
      ⟨positive, below_of_atMost_of_below ordered below⟩
    have inside' : 0.0 < target' ∧ target' < 1.0 :=
      ⟨below_of_below_of_atMost positive ordered, below⟩
    by_cases found : ∃ mode, tx.modeFor commonStation = .ok mode ∧ mode.isCodedOfdm
    · obtain ⟨mode, own, coded⟩ := found
      obtain ⟨alike, order⟩ := Transmission.searchSnr_order_of_climbs accepted own own coded coded
        inside' inside Iff.rfl fun ⟨rate, failed, above⟩ =>
          ⟨rate, failed, below_of_atMost_of_below ordered above⟩
      exact ⟨alike.symm, fun snr snr' answered answered' => order snr' snr answered' answered⟩
    · have unanswered (share snr : Exact tail) : tx.searchSnr settings share ≠ .ok snr := by
        intro answered
        obtain ⟨_, mode, own, coded, _⟩ := Transmission.searchSnr_eq_ok answered
        exact found ⟨mode, own, coded⟩
      simp [unanswered]
  · intro first second lower width streams guardInterval tx tx' made made' target
    obtain ⟨wide, rfl⟩ := Transmission.eq_single_of_singleUser made
    obtain ⟨_, rfl⟩ := Transmission.eq_single_of_singleUser made'
    by_cases possible : (0.0 < target ∧ target < 1.0) ∧ first.isCodedOfdm
    · obtain ⟨inside, coded⟩ := possible
      have sameEnergy := @Transmission.energyAt_single_of_lowerRate tail settings first second lower
        coded width streams guardInterval wide
      refine Transmission.searchSnr_order_of_climbs accepted rfl rfl coded
        (lower.coded_iff.mpr coded) inside inside ?_ ?_
      · exact Transmission.exists_bitFailure_iff_of_lowerRate lower coded sameEnergy
      · exact Transmission.failsTooOften_of_lowerRate lower coded sameEnergy
    · have impossible' : ¬((0.0 < target ∧ target < 1.0) ∧ second.isCodedOfdm) :=
        fun both => possible ⟨both.1, lower.coded_iff.mp both.2⟩
      simp [Transmission.searchSnr_single_ne_ok wide possible,
        Transmission.searchSnr_single_ne_ok wide impossible']

/-- On 20 MHz the plain mode with half of the bits is searched for two targets, and the one with
three quarters of them for one target. -/
theorem bpskMode_search_order :
    ∃ tx tx' : Transmission (Exact gaussianTail),
      Transmission.singleUser (bpskMode gaussianTail "OfdmRate6Mbps" .half) (finite 20) =
        .ok tx ∧
      Transmission.singleUser (bpskMode gaussianTail "OfdmRate9Mbps" .threeQuarters)
        (finite 20) = .ok tx' ∧
      (∃ snr snr', tx.searchSnr .standard (finite (1 / 10)) = .ok snr ∧
        tx.searchSnr .standard (finite (1 / 5)) = .ok snr' ∧ snr' ≤ snr) ∧
      ∃ snr snr', tx.searchSnr .standard (finite (1 / 10)) = .ok snr ∧
        tx'.searchSnr .standard (finite (1 / 10)) = .ok snr' ∧ snr ≤ snr' := by
  have wide : ¬(finite 20 : Exact gaussianTail) ≤ 0.0 := WifiMode.not_twenty_nonpos
  have made := Transmission.singleUser_of_wide
    (bpskMode gaussianTail "OfdmRate6Mbps" .half) 1 800 wide
  have made' := Transmission.singleUser_of_wide
    (bpskMode gaussianTail "OfdmRate9Mbps" .threeQuarters) 1 800 wide
  obtain ⟨targets, rates⟩ := @searchSnr_order gaussianTail .standard standard_checked
  have zero : (0.0 : Exact gaussianTail) < finite (1 / 10) := by
    simp only [ofScientific_eq, finite_lt_finite]
    norm_num
  have ordered : (finite (1 / 10) : Exact gaussianTail) ≤ finite (1 / 5) := by
    rw [finite_le_finite]
    norm_num
  have one : (finite (1 / 5) : Exact gaussianTail) < 1.0 := by
    simp only [ofScientific_eq, finite_lt_finite]
    norm_num
  obtain ⟨alike, order⟩ := targets
    (Transmission.single (bpskMode gaussianTail "OfdmRate6Mbps" .half) (finite 20) 1 800 wide)
    (finite (1 / 10)) (finite (1 / 5)) zero ordered one
  obtain ⟨alike', order'⟩ := rates _ _ bpskMode_lowerRate _ _ _ _ _ made made' (finite (1 / 10))
  obtain ⟨snr, answered⟩ := exists_searchSnr_bpskMode wide
    ⟨zero, below_of_atMost_of_below ordered one⟩
  obtain ⟨snr', answered'⟩ := alike.mp ⟨snr, answered⟩
  obtain ⟨snr'', answered''⟩ := alike'.mp ⟨snr, answered⟩
  exact ⟨_, _, made, made', ⟨snr, snr', answered, answered', order _ _ answered answered'⟩,
    ⟨snr, snr'', answered, answered'', order' _ _ answered answered''⟩⟩

end WifiLink
