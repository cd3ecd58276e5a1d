import WifiLink.Proofs.SnrSearch.Outcome

/-!
# Convergence of the search

Every halving leaves half of the range, whatever the curve of failures looks like, so the number
of halvings that a search takes depends on range and precision alone. What the curve decides is
which half is kept: the ends that were moved lie on their sides of the target.
-/

namespace WifiLink

open Exact

/-! ## Halvings -/

section Generic

variable {α : Type} [Scalar α]

/-- Halves a bracket so many times, however narrow it gets. -/
def halved (failure : α → Except (Fault α) α) (target : α) :
    ℕ → Bracket α → Except (Fault α) (Bracket α)
  | 0, bracket => .ok bracket
  | halvings + 1, bracket => do
      let rate ← failure bracket.middle
      halved failure target halvings (bracket.halve (target < rate))

variable {failure : α → Except (Fault α) α} {target precision : α}

/-- The last halving instead of the first one. -/
theorem halved_succ (halvings : ℕ) (bracket : Bracket α) :
    halved failure target (halvings + 1) bracket =
      (halved failure target halvings bracket >>= fun last =>
        failure last.middle >>= fun rate => .ok (last.halve (target < rate))) := by
  induction halvings generalizing bracket with
  | zero => rfl
  | succ halvings inductionHypothesis =>
      rw [halved]
      cases failed : failure bracket.middle with
      | error fault => simp [halved, failed]
      | ok rate =>
          rw [ok_bind, inductionHypothesis, halved, failed, ok_bind]

/-- While the brackets are wide, the search does nothing but halve. -/
theorem bisect_of_wide {halvings more : ℕ} {bracket : Bracket α}
    (wide : ∀ earlier < halvings, ∀ reached,
      halved failure target earlier bracket = .ok reached → ¬reached.gap ≤ precision) :
    bisect failure target precision (halvings + more) bracket =
      (halved failure target halvings bracket >>= bisect failure target precision more) := by
  induction halvings generalizing bracket with
  | zero => simp [halved]
  | succ halvings inductionHypothesis =>
      have first : ¬bracket.gap ≤ precision := wide 0 (Nat.succ_pos halvings) bracket rfl
      rw [Nat.add_right_comm, bisect, if_neg first, halved]
      cases failed : failure bracket.middle with
      | error fault => rfl
      | ok rate =>
          rw [ok_bind, ok_bind]
          apply inductionHypothesis
          intro earlier fewer reached equality
          apply wide (earlier + 1) (Nat.succ_lt_succ fewer)
          rw [halved, failed, ok_bind, equality]

end Generic

variable {tail : ErrorTail}

/-! ## Narrow gaps -/

section Gaps

private theorem finite_two_pow (n : ℕ) : (finite (2 ^ n) : Exact tail) = extend (2 ^ n) := by
  rw [finite_eq_extend (by positivity), ENNReal.ofReal_pow two_pos.le, ENNReal.ofReal_ofNat]

private theorem extend_div_two_pow (x : ENNReal) (n : ℕ) :
    (extend x : Exact tail) / finite (2 ^ n) = extend (x / 2 ^ n) := by
  rw [finite_two_pow]
  exact extend_div_extend (ENNReal.pow_pos two_pos n) (Or.inr (ENNReal.pow_ne_top (by norm_num)))

variable {gap precision : Exact tail} (positive : finite 0 < gap)
include positive

private theorem div_two_pow_le_iff (fine : ¬precision ≤ finite 0) (n : ℕ) :
    gap / finite (2 ^ n) ≤ precision ↔ gap ≤ precision * finite (2 ^ n) := by
  have nonzero : (2 : ENNReal) ^ n ≠ 0 := (ENNReal.pow_pos two_pos n).ne'
  have real : (2 : ENNReal) ^ n ≠ ⊤ := ENNReal.pow_ne_top (by norm_num)
  obtain ⟨g, _, rfl⟩ := exists_extend_of_pos positive
  rcases exists_extend_of_not_nonpos fine with rfl | ⟨p, some, rfl⟩
  · rw [notANumber_mul]
    exact iff_of_false (not_le_notANumber _) (not_le_notANumber _)
  · rw [extend_div_two_pow, finite_two_pow,
      extend_mul_extend (Or.inl some.ne') (Or.inr nonzero), extend_le_extend, extend_le_extend]
    exact ENNReal.div_le_iff nonzero real

private theorem narrow_of_narrow {few many : ℕ} (more : few ≤ many)
    (narrow : gap / finite (2 ^ few) ≤ precision) :
    gap / finite (2 ^ many) ≤ precision := by
  obtain ⟨g, _, rfl⟩ := exists_extend_of_pos positive
  refine atMost_trans ?_ narrow
  rw [extend_div_two_pow, extend_div_two_pow, extend_le_extend]
  gcongr
  exact one_le_two

end Gaps

private theorem exists_fewest_of_narrow {gap precision : Exact tail} {enough : ℕ}
    (narrow : gap / finite (2 ^ enough) ≤ precision) :
    ∃ halvings ≤ enough, gap / finite (2 ^ halvings) ≤ precision ∧
      ∀ earlier < halvings, ¬gap / finite (2 ^ earlier) ≤ precision := by
  have exists_narrow : ∃ halvings, gap / finite (2 ^ halvings) ≤ precision := ⟨enough, narrow⟩
  exact ⟨Nat.find exists_narrow, Nat.find_min' exists_narrow narrow,
    Nat.find_spec exists_narrow, fun _ => Nat.find_min exists_narrow⟩

/-! ## Brackets of a range -/

/-- What is known of a bracket after some halvings of the range. -/
structure Settings.Brackets
    (settings : Settings (Exact tail))
    (failure : Exact tail → Except (Fault (Exact tail)) (Exact tail)) (target : Exact tail)
    (halvings : ℕ) (bracket : Bracket (Exact tail)) : Prop where
  low_le : settings.searchLow ≤ bracket.low
  proper : bracket.low < bracket.high
  le_high : bracket.high ≤ settings.searchHigh
  gap_eq : bracket.gap = settings.range.gap / finite (2 ^ halvings)
  lowEnd : bracket.low = settings.searchLow ∨ FailsTooOften failure target bracket.low
  highEnd : bracket.high = settings.searchHigh ∨ FailsSeldom failure target bracket.high

section Brackets

variable {settings : Settings (Exact tail)}
  {failure : Exact tail → Except (Fault (Exact tail)) (Exact tail)} {target : Exact tail}

/-- No gap is narrow enough for a missing precision, so a searched bracket is a halved one. -/
theorem exists_searchedTo_of_halved
    (compares : ∀ {snr rate : Exact tail}, failure snr = .ok rate → target < rate ∨ rate ≤ target)
    (known : ∀ snr : ℝ, 0 < snr → ∃ rate, failure (finite snr) = .ok rate)
    {bottom top : ℝ} (positive : 0 < bottom) (ordered : bottom < top) (halvings : ℕ) :
    ∃ bracket, halved failure target halvings (.between bottom top) = .ok bracket ∧
      SearchedTo failure target notANumber bottom top halvings bracket := by
  induction halvings with
  | zero => exact ⟨_, rfl, bottom, top, rfl, Searched.start bottom top⟩
  | succ halvings inductionHypothesis =>
      obtain ⟨bracket, reached, low, high, rfl, searched⟩ := inductionHypothesis
      have proper := searched.low_lt_high ordered
      have above := positive.trans_le searched.bottom_le
      obtain ⟨rate, failed⟩ := known (low + (high - low) / 2) (by linarith)
      rw [← Bracket.middle_between] at failed
      refine ⟨_, ?_, Searched.exists_of_halve compares ordered ⟨low, high, rfl, searched⟩
        (not_le_notANumber _) failed⟩
      rw [halved_succ, reached, ok_bind, failed, ok_bind]

private theorem exists_brackets_of_bounded
    (compares : ∀ {snr rate : Exact tail}, failure snr = .ok rate → target < rate ∨ rate ≤ target)
    (known : ∀ snr : ℝ, 0 < snr → ∃ rate, failure (finite snr) = .ok rate)
    {bottom top : ℝ} (positive : 0 < bottom) (ordered : bottom < top)
    (range : settings.range = .between bottom top) (halvings : ℕ) :
    ∃ bracket, halved failure target halvings settings.range = .ok bracket ∧
      settings.Brackets failure target halvings bracket := by
  have low_eq : settings.searchLow = finite bottom := congrArg Bracket.low range
  have high_eq : settings.searchHigh = finite top := congrArg Bracket.high range
  have nonzero : (2 : ℝ) ^ halvings ≠ 0 := by positivity
  obtain ⟨bracket, reached, low, high, rfl, searched⟩ :=
    exists_searchedTo_of_halved @compares known positive ordered halvings
  refine ⟨.between low high, by rw [range, reached], ?_⟩
  constructor
  · rw [low_eq]
    exact searched.bottom_le
  · exact searched.low_lt_high ordered
  · rw [high_eq]
    exact searched.le_top
  · rw [range, Bracket.gap_between, Bracket.gap_between, finite_div_finite _ nonzero,
      searched.width]
  · rw [low_eq]
    exact searched.lowEnd.imp_left (congrArg finite)
  · rw [high_eq]
    exact searched.highEnd.imp_left (congrArg finite)

/-- When nothing fails without noise, a range without an upper end is never left. -/
theorem exists_brackets_of_unbounded
    {rate : Exact tail} (loudest : failure (infinite false) = .ok rate) (seldom : rate ≤ target)
    {bottom : ℝ} (range : settings.range = ⟨finite bottom, infinite false⟩) (halvings : ℕ) :
    ∃ bracket, halved failure target halvings settings.range = .ok bracket ∧
      settings.Brackets failure target halvings bracket := by
  have low_eq : settings.searchLow = finite bottom := congrArg Bracket.low range
  have high_eq : settings.searchHigh = infinite false := congrArg Bracket.high range
  -- The middle of this range is its upper end, which the search keeps as it fails seldom.
  have kept : halved failure target halvings settings.range = .ok settings.range := by
    induction halvings with
    | zero => rfl
    | succ halvings inductionHypothesis =>
        rw [halved_succ, inductionHypothesis, ok_bind, range, Bracket.middle_of_infinite,
          loudest, ok_bind, decide_eq_false (not_below_of_atMost seldom), Bracket.halve,
          if_neg Bool.false_ne_true, Bracket.middle_of_infinite]
  refine ⟨settings.range, kept, ?_⟩
  rw [range]
  constructor
  · rw [low_eq]
    exact (finite_le_finite _ _).mpr le_rfl
  · rfl
  · rw [high_eq]
    exact Or.inr rfl
  · have gap : (⟨finite bottom, infinite false⟩ : Bracket (Exact tail)).gap = extend ⊤ :=
      extend_top.symm
    rw [range, gap, extend_div_two_pow, ENNReal.top_div_of_ne_top]
    exact ENNReal.pow_ne_top (by norm_num)
  · exact Or.inl low_eq.symm
  · exact Or.inl high_eq.symm

end Brackets

private theorem Settings.range_gap_pos {settings : Settings (Exact tail)}
    (accepted : settings.checked = .ok settings) :
    finite 0 < settings.range.gap := by
  obtain ⟨bottom, _, ⟨top, ordered, range⟩ | unbounded⟩ := Settings.range_of_checked accepted
  · rw [range, Bracket.gap_between, finite_lt_finite]
    linarith
  · rw [unbounded]
    rfl

/-! ## Halvings by the curve of a transmission -/

namespace Transmission

section Search

variable {tx : Transmission (Exact tail)} {settings : Settings (Exact tail)}
  {mode : WifiMode (Exact tail)} (own : tx.modeFor commonStation = .ok mode)
  (coded : mode.isCodedOfdm)
include own coded

/-- Without noise no bit fails. -/
theorem bitFailure_infinite (vanishing : tail ⊤ = 0) {rate : Exact tail}
    (failed : tx.bitFailure settings mode (infinite false) = .ok rate) :
    rate = finite 0 := by
  obtain ⟨spectrum, energy, listed, known, rfl⟩ := (bitFailure_eq_ok_iff coded).mp failed
  have member := DistanceSpectrum.constellation_of_mem_table listed
  have points : 0 < mode.constellation := two_pos.trans_le (two_le_constellation member)
  obtain ⟨value, sent, known⟩ := bind_eq_ok_iff.mp known
  have real := bitRate_ne_infinite coded own points sent
  obtain ⟨s, w, r, _, ratio, width, rfl, rfl⟩ := bitEnergyRatio_eq_extend known
  obtain rfl : ⊤ = s := extend_injective (extend_top.trans ratio)
  have wide : w ≠ 0 := by
    rintro rfl
    exact tx.width_positive (by rw [width, zero_eq_finite, extend_nonpos_iff])
  have bounded : r ≠ ⊤ := by
    rintro rfl
    exact real extend_top
  rw [energyRatio_top wide bounded, survivalShare, errorShare_top member vanishing,
    eventMass_zero (DistanceSpectrum.regular_of_mem_table listed), sub_zero, one_pow, sub_self]

private theorem exists_brackets
    (accepted : settings.checked = .ok settings)
    (evaluated : ∃ snr rate, tx.bitFailure settings mode snr = .ok rate)
    (bounded : settings.searchHigh ≠ infinite false ∨ tail ⊤ = 0)
    {target : Exact tail} (inside : 0.0 < target ∧ target < 1.0) (halvings : ℕ) :
    ∃ bracket,
      halved (tx.bitFailure settings mode) target halvings settings.range = .ok bracket ∧
        settings.Brackets (tx.bitFailure settings mode) target halvings bracket := by
  obtain ⟨share, rfl⟩ := exists_real_of_inside inside
  obtain ⟨snr, rate, evaluated⟩ := evaluated
  obtain ⟨bottom, positive, ⟨top, ordered, range⟩ | unbounded⟩ :=
    Settings.range_of_checked accepted
  · have known (snr : ℝ) (audible : 0 < snr) :
        ∃ rate, tx.bitFailure settings mode (finite snr) = .ok rate :=
      exists_bitFailure coded own evaluated audible
    exact exists_brackets_of_bounded (bitFailure_compares coded share) known positive ordered
      range halvings
  · have vanishing := bounded.resolve_left fun real => real (congrArg Bracket.high unbounded)
    have audible : finite 0 < (infinite false : Exact tail) := rfl
    obtain ⟨rate, loudest⟩ := exists_bitFailure coded own evaluated audible
    refine exists_brackets_of_unbounded loudest ?_ unbounded halvings
    have above := inside.1
    rw [ofScientific_eq, finite_lt_finite] at above
    norm_num at above
    rw [bitFailure_infinite own coded vanishing loudest, finite_le_finite]
    exact above.le

end Search

section Answer

variable {tx : Transmission (Exact tail)} {settings : Settings (Exact tail)}
  {mode : WifiMode (Exact tail)} {target : Exact tail}
  (inside : 0.0 < target ∧ target < 1.0)
  (own : tx.modeFor commonStation = .ok mode) (coded : mode.isCodedOfdm)
  (halves : ∀ halvings, ∃ bracket,
    halved (tx.bitFailure settings mode) target halvings settings.range = .ok bracket ∧
      settings.Brackets (tx.bitFailure settings mode) target halvings bracket)
include halves

private theorem gap_of_halved {halvings : ℕ} {reached : Bracket (Exact tail)}
    (halved : halved (tx.bitFailure settings mode) target halvings settings.range = .ok reached) :
    reached.gap = settings.range.gap / finite (2 ^ halvings) := by
  obtain ⟨bracket, equality, brackets⟩ := halves halvings
  obtain rfl : bracket = reached := Except.ok.inj (equality.symm.trans halved)
  exact brackets.gap_eq

/-- While no fewer halvings narrow the range enough, the search has made them all. -/
theorem bisect_of_wide_gaps
    {halvings more : ℕ}
    (wide : ∀ earlier < halvings,
      ¬settings.range.gap / finite (2 ^ earlier) ≤ settings.searchPrecision) :
    bisect (tx.bitFailure settings mode) target settings.searchPrecision (halvings + more)
        settings.range =
      (halved (tx.bitFailure settings mode) target halvings settings.range >>=
        bisect (tx.bitFailure settings mode) target settings.searchPrecision more) := by
  apply bisect_of_wide
  intro earlier fewer reached equality
  rw [gap_of_halved halves equality]
  exact wide earlier fewer

private theorem bisect_eq_halved
    {halvings : ℕ}
    (wide : ∀ earlier < halvings,
      ¬settings.range.gap / finite (2 ^ earlier) ≤ settings.searchPrecision) :
    bisect (tx.bitFailure settings mode) target settings.searchPrecision halvings
        settings.range =
      halved (tx.bitFailure settings mode) target halvings settings.range := by
  have run := @bisect_of_wide_gaps tail tx settings mode target halves halvings 0 wide
  obtain ⟨bracket, reached, _⟩ := halves halvings
  rw [Nat.add_zero, reached, ok_bind, bisect] at run
  rw [run, reached]

include inside own coded

/-- The search answers with the first bracket that is narrow enough. -/
theorem searchSnr_of_narrow
    {halvings : ℕ} (few : halvings ≤ settings.searchIterations.toNat)
    (narrow : settings.range.gap / finite (2 ^ halvings) ≤ settings.searchPrecision)
    (wide : ∀ earlier < halvings,
      ¬settings.range.gap / finite (2 ^ earlier) ≤ settings.searchPrecision) :
    ∃ bracket,
      halved (tx.bitFailure settings mode) target halvings settings.range = .ok bracket ∧
        tx.searchSnr settings target = .ok bracket.low := by
  obtain ⟨bracket, reached, brackets⟩ := halves halvings
  obtain ⟨more, steps⟩ := Nat.exists_eq_add_of_le few
  have enough : bracket.gap ≤ settings.searchPrecision := by
    rw [brackets.gap_eq]
    exact narrow
  refine ⟨bracket, reached, ?_⟩
  rw [searchSnr_of_mode inside own coded, steps, bisect_of_wide_gaps halves wide, reached, ok_bind,
    bisect_of_narrow enough, ok_bind, if_pos enough]

/-- The search refuses when all the halvings that it may take leave too wide a bracket. -/
theorem refused_of_wide
    (wide : ∀ halvings ≤ settings.searchIterations.toNat,
      ¬settings.range.gap / finite (2 ^ halvings) ≤ settings.searchPrecision) :
    Refused (tx.searchSnr settings target) := by
  obtain ⟨bracket, reached, brackets⟩ := halves settings.searchIterations.toNat
  have stillWide : ¬bracket.gap ≤ settings.searchPrecision := by
    rw [brackets.gap_eq]
    exact wide _ le_rfl
  rw [searchSnr_of_mode inside own coded,
    bisect_eq_halved halves fun earlier fewer => wide earlier fewer.le, reached, ok_bind,
    if_neg stillWide]
  exact refused_error rfl

end Answer

end Transmission

/-! ## Sample settings -/

section Sample

/-- The standard settings with another number of halvings. -/
noncomputable def standardWithin (halvings : ℕ) : Settings (Exact tail) :=
  { Settings.standard with searchIterations := halvings }

private theorem standardWithin_checked {halvings : ℕ} (some : 0 < halvings) :
    (standardWithin halvings : Settings (Exact tail)).checked = .ok (standardWithin halvings) := by
  have limited : ¬(halvings : Int) < 1 := by omega
  simp only [Settings.checked, standardWithin, Settings.standard, ofScientific_eq,
    finite_le_finite, finite_lt_finite, limited]
  norm_num

private theorem standardWithin_narrow_iff (halvings : ℕ) :
    ((standardWithin halvings : Settings (Exact tail)).range.gap ≤
      (standardWithin halvings : Settings (Exact tail)).searchPrecision *
        finite (2 ^ (standardWithin halvings : Settings (Exact tail)).searchIterations.toNat)) ↔
      (1e25 - 1e-25 : ℝ) ≤ 2e-12 * 2 ^ halvings := by
  have range : (standardWithin halvings : Settings (Exact tail)).range = .between 1e-25 1e25 :=
    standard_range
  have precision : (standardWithin halvings : Settings (Exact tail)).searchPrecision =
      finite 2e-12 := by
    simp only [standardWithin, Settings.standard, ofScientific_eq]
  rw [range, precision, Bracket.gap_between, finite_mul_finite, finite_le_finite]
  rfl

end Sample

/-- The curve that a search follows is what the success rate of a bit leaves of one. Every halving
keeps half of the gap and ends on their sides of the target, unless they are ends of the range, and
the search makes halvings while none before was enough. It answers just when the halvings that it
may take narrow the range to the precision, then with the lower end that the first such halving
leaves. Otherwise it refuses. A range without an upper end needs a tail that vanishes. -/
theorem searchSnr_convergence
    (tx : Transmission (Exact tail)) (settings : Settings (Exact tail))
    (accepted : settings.checked = .ok settings) {mode : WifiMode (Exact tail)}
    (own : tx.modeFor commonStation = .ok mode) (coded : mode.isCodedOfdm)
    (evaluated : ∃ snr rate, tx.bitFailure settings mode snr = .ok rate)
    (bounded : settings.searchHigh ≠ infinite false ∨ tail ⊤ = 0)
    {target : Exact tail} (inside : 0.0 < target ∧ target < 1.0) :
    (mode.sameAs mode → ∀ snr, tx.bitFailure settings mode snr = do
      return 1.0 - (← successRate tx settings { mode, snr, bits := .integer 1 })) ∧
    (∀ halvings, ∃ bracket,
      halved (tx.bitFailure settings mode) target halvings settings.range = .ok bracket ∧
        settings.Brackets (tx.bitFailure settings mode) target halvings bracket) ∧
    (∀ halvings,
      (∀ earlier < halvings,
        ¬settings.range.gap / finite (2 ^ earlier) ≤ settings.searchPrecision) →
      bisect (tx.bitFailure settings mode) target settings.searchPrecision halvings
          settings.range =
        halved (tx.bitFailure settings mode) target halvings settings.range) ∧
    (∀ snr, tx.searchSnr settings target = .ok snr ↔
      ∃ halvings ≤ settings.searchIterations.toNat,
        settings.range.gap / finite (2 ^ halvings) ≤ settings.searchPrecision ∧
        (∀ earlier < halvings,
          ¬settings.range.gap / finite (2 ^ earlier) ≤ settings.searchPrecision) ∧
        ∃ bracket,
          halved (tx.bitFailure settings mode) target halvings settings.range = .ok bracket ∧
            snr = bracket.low) ∧
    ((∃ snr, tx.searchSnr settings target = .ok snr) ↔
      settings.range.gap ≤
        settings.searchPrecision * finite (2 ^ settings.searchIterations.toNat)) ∧
    (Refused (tx.searchSnr settings target) ↔
      ¬settings.range.gap ≤
        settings.searchPrecision * finite (2 ^ settings.searchIterations.toNat)) := by
  have positive := Settings.range_gap_pos accepted
  have halves := Transmission.exists_brackets own coded accepted evaluated bounded inside
  have answers := @Transmission.searchSnr_of_narrow tail tx settings mode target inside own coded
    halves
  rw [← div_two_pow_le_iff positive (Settings.spec_of_checked accepted).2]
  have returns (enough : settings.range.gap / finite (2 ^ settings.searchIterations.toNat) ≤
      settings.searchPrecision) := exists_fewest_of_narrow enough
  have refuses (scarce : ¬settings.range.gap / finite (2 ^ settings.searchIterations.toNat) ≤
      settings.searchPrecision) : Refused (tx.searchSnr settings target) :=
    Transmission.refused_of_wide inside own coded halves fun halvings few narrow =>
      scarce (narrow_of_narrow positive few narrow)
  have enough_of_answer {snr : Exact tail} (answered : tx.searchSnr settings target = .ok snr) :
      settings.range.gap / finite (2 ^ settings.searchIterations.toNat) ≤
        settings.searchPrecision := by
    by_contra scarce
    exact not_refused_of_eq_ok answered (refuses scarce)
  refine ⟨?_, halves, ?_, ?_, ⟨?_, ?_⟩, ⟨?_, refuses⟩⟩
  · exact Transmission.bitFailure_eq_successRate own
  · exact fun halvings => Transmission.bisect_eq_halved halves
  · intro snr
    constructor
    · intro answered
      obtain ⟨halvings, few, narrow, wide⟩ := returns (enough_of_answer answered)
      obtain ⟨bracket, reached, answered'⟩ := answers few narrow wide
      refine ⟨halvings, few, narrow, wide, bracket, reached, ?_⟩
      exact Except.ok.inj (answered.symm.trans answered')
    · rintro ⟨halvings, few, narrow, wide, bracket, reached, rfl⟩
      obtain ⟨bracket', reached', answered⟩ := answers few narrow wide
      obtain rfl : bracket' = bracket := Except.ok.inj (reached'.symm.trans reached)
      exact answered
  · rintro ⟨snr, answered⟩
    exact enough_of_answer answered
  · intro enough
    obtain ⟨halvings, few, narrow, wide⟩ := returns enough
    obtain ⟨bracket, _, answered⟩ := answers few narrow wide
    exact ⟨bracket.low, answered⟩
  · intro refused enough
    obtain ⟨halvings, few, narrow, wide⟩ := returns enough
    obtain ⟨bracket, _, answered⟩ := answers few narrow wide
    exact not_refused_of_eq_ok answered refused

/-- The standard range takes 122 halvings. -/
theorem ofdmTransmission_convergence :
    (∃ snr, (ofdmTransmission gaussianTail).searchSnr (standardWithin 122) (finite (1 / 10)) =
        .ok snr) ∧
      Refused
        ((ofdmTransmission gaussianTail).searchSnr (standardWithin 121) (finite (1 / 10))) := by
  have inside : (0.0 : Exact gaussianTail) < finite (1 / 10) ∧
      (finite (1 / 10) : Exact gaussianTail) < 1.0 := by
    simp only [ofScientific_eq, finite_lt_finite]
    norm_num
  have own : (ofdmTransmission gaussianTail).modeFor commonStation = .ok (ofdmMode gaussianTail) :=
    rfl
  have converges (halvings : ℕ) (some : 0 < halvings) :=
    searchSnr_convergence (ofdmTransmission gaussianTail) (standardWithin halvings)
      (standardWithin_checked some) own rfl
      ⟨_, exists_bitFailure_ofdm _ zero_le_one⟩ (Or.inr gaussianTail_top) inside
  constructor
  · obtain ⟨_, _, _, _, returns, _⟩ := converges 122 (by decide)
    rw [returns, standardWithin_narrow_iff]
    norm_num
  · obtain ⟨_, _, _, _, _, refuses⟩ := converges 121 (by decide)
    rw [refuses, standardWithin_narrow_iff]
    norm_num

end WifiLink
