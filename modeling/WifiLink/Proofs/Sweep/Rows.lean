import WifiLink.Proofs.Estimate.CodeRate
import WifiLink.Proofs.Sweep.Grid
import WifiLink.Sweep.Basic

/-!
# Rows of a sweep

A sweep has one row for each mode and point, mode after mode, and each row says what the estimate
of that mode alone says at that point. A sweep over more modes is one sweep after the other.
-/

namespace WifiLink

/-! ## Runs over lists -/

section Runs

variable {ε β γ δ : Type}

private theorem mapM_eq_ok_iff {answer : β → Except ε γ} {items : List β} {results : List γ} :
    items.mapM answer = .ok results ↔
      List.Forall₂ (fun item result => answer item = .ok result) items results := by
  induction items generalizing results with
  | nil =>
      rw [List.mapM_nil, List.forall₂_nil_left_iff]
      constructor
      · rintro ⟨⟩
        rfl
      · rintro rfl
        rfl
  | cons item rest inductionHypothesis =>
      rw [List.mapM_cons, bind_eq_ok_iff, List.forall₂_cons_left_iff]
      constructor
      · rintro ⟨result, answered, following⟩
        obtain ⟨others, below, equal⟩ := bind_eq_ok_iff.mp following
        cases equal
        exact ⟨result, others, answered, inductionHypothesis.mp below, rfl⟩
      · rintro ⟨result, others, answered, below, rfl⟩
        refine ⟨result, answered, ?_⟩
        rw [inductionHypothesis.mpr below]
        rfl

private theorem exists_mapM_eq_ok_iff {answer : β → Except ε γ} {items : List β} :
    (∃ results, items.mapM answer = .ok results) ↔
      ∀ item ∈ items, ∃ result, answer item = .ok result := by
  simp only [mapM_eq_ok_iff]
  constructor
  · rintro ⟨results, answered⟩ item member
    obtain ⟨index, inside, rfl⟩ := List.mem_iff_getElem.mp member
    exact ⟨_, answered.get inside (answered.length_eq ▸ inside)⟩
  · intro answered
    induction items with
    | nil => exact ⟨[], .nil⟩
    | cons item rest inductionHypothesis =>
        obtain ⟨result, first⟩ := answered item List.mem_cons_self
        obtain ⟨others, following⟩ := inductionHypothesis fun other member =>
          answered other (List.mem_cons_of_mem item member)
        exact ⟨result :: others, .cons first following⟩

/-- A run over all pairs is a run over the second items for each of the first. -/
theorem forall₂_product_iff {relation : β → γ → δ → Prop} {firsts : List β} {seconds : List γ}
    {results : List δ} :
    List.Forall₂ (fun pair => relation pair.1 pair.2) (firsts ×ˢ seconds) results ↔
      ∃ groups : List (List δ), results = groups.flatten ∧
        List.Forall₂ (fun first => List.Forall₂ (relation first) seconds) firsts groups := by
  induction firsts generalizing results with
  | nil =>
      rw [List.nil_product, List.forall₂_nil_left_iff]
      constructor
      · rintro rfl
        exact ⟨[], rfl, .nil⟩
      · rintro ⟨groups, rfl, grouped⟩
        rw [List.forall₂_nil_left_iff.mp grouped]
        rfl
  | cons first rest inductionHypothesis =>
      rw [List.product_cons]
      constructor
      · intro related
        -- The first item has as many results as there are second ones.
        have front := List.forall₂_take seconds.length related
        have back := List.forall₂_drop seconds.length related
        rw [← List.length_map (Prod.mk first), List.take_left, List.length_map,
          List.forall₂_map_left_iff] at front
        rw [← List.length_map (Prod.mk first), List.drop_left, List.length_map,
          inductionHypothesis] at back
        obtain ⟨groups, equal, grouped⟩ := back
        refine ⟨results.take seconds.length :: groups, ?_, .cons front grouped⟩
        rw [List.flatten_cons, ← equal, List.take_append_drop]
      · rintro ⟨groups, rfl, grouped⟩
        obtain ⟨group, others, here, below, rfl⟩ := List.forall₂_cons_left_iff.mp grouped
        have front : List.Forall₂ (fun pair => relation pair.1 pair.2) (seconds.map (Prod.mk first))
            group := List.forall₂_map_left_iff.mpr here
        exact List.rel_append front (inductionHypothesis.mpr ⟨others, rfl, below⟩)

end Runs

/-! ## Modes and points -/

variable {α : Type} [Scalar α]

private theorem name_of_standardMode {name : String} {mode : WifiMode α}
    (found : standardMode name = .ok mode) : mode.name = name := by
  unfold standardMode at found
  split at found
  · next entry listed =>
      cases found
      simpa using List.find?_some listed
  · cases found

namespace Sweep

/-- The mode is a standard one, and its transmission has a rate. -/
def Sends (sweep : Sweep α) (name : String) : Prop :=
  ∃ mode tx rate, standardMode name = .ok mode ∧
    Transmission.singleUser mode sweep.width sweep.streams sweep.guardInterval = .ok tx ∧
    tx.effectiveRate mode commonStation sweep.settings = .ok rate

/-- The chunk that is estimated at a point: its ratio is ten to a tenth of the decibels. -/
def chunkAt (sweep : Sweep α) (mode : WifiMode α) (decibels : α) : Chunk α where
  mode := mode
  snr := Scalar.tenToThe (decibels / 10.0)
  bits := sweep.bits

/-- What the row of a mode, given by name, says at a point. Its success probability is that of the
estimate on the mode's own transmission, and follows from its bit error rate. -/
inductive Reports (sweep : Sweep α) (name : String) (decibels : α) : SweepRow α → Prop
  | modeled {mode : WifiMode α} {tx : Transmission α} {rate errorRate success : α} {bits : Int}
      {spectrum : DistanceSpectrum} :
      standardMode name = .ok mode → mode.isCodedOfdm →
        Transmission.singleUser mode sweep.width sweep.streams sweep.guardInterval = .ok tx →
        estimate tx sweep.settings (sweep.chunkAt mode decibels) = .ok (.modeled success) →
        tx.effectiveRate mode commonStation sweep.settings = .ok rate →
        bitErrorRate (Scalar.tenToThe (decibels / 10.0)) mode.constellation tx.width rate =
          .ok errorRate →
        sweep.bits = .integer bits →
        (DistanceSpectrum.lookup mode.constellation (.rate mode.codeRate) :
          Except (Fault α) DistanceSpectrum) = .ok spectrum →
        chunkSurvival errorRate bits spectrum = .ok success →
          Reports sweep name decibels ⟨name, decibels, errorRate, some success⟩
  | unmodeled {mode : WifiMode α} {tx : Transmission α} :
      standardMode name = .ok mode → ¬mode.isCodedOfdm →
        Transmission.singleUser mode sweep.width sweep.streams sweep.guardInterval = .ok tx →
        estimate tx sweep.settings (sweep.chunkAt mode decibels) =
          .ok (.unmodeled mode.modulation) →
          Reports sweep name decibels ⟨name, decibels, Scalar.notANumber, none⟩

section Row

variable {sweep : Sweep α} {name : String} {mode : WifiMode α} {tx : Transmission α}
  {rate decibels : α} {row : SweepRow α}
  (found : standardMode name = .ok mode)
  (made : Transmission.singleUser mode sweep.width sweep.streams sweep.guardInterval = .ok tx)
  (sent : tx.effectiveRate mode commonStation sweep.settings = .ok rate)
include found made sent

private theorem reports_of_row (answered : sweep.row mode tx rate decibels = .ok row) :
    sweep.Reports name decibels row := by
  obtain ⟨result, estimated, answered⟩ := bind_eq_ok_iff.mp answered
  cases result with
  | modeled success =>
      obtain ⟨coded, bits, spectrum, value, counted, _, listed, sent', survives⟩ :=
        estimateWith_eq_modeled estimated
      cases Except.ok.inj (sent.symm.trans sent')
      obtain ⟨errorRate, received, survives⟩ := bind_eq_ok_iff.mp survives
      obtain ⟨errorRate', received', answered⟩ := bind_eq_ok_iff.mp answered
      cases Except.ok.inj (received.symm.trans received')
      cases answered
      rw [name_of_standardMode found]
      exact .modeled found coded made estimated sent received counted listed survives
  | unmodeled modulation =>
      obtain ⟨uncoded, rfl⟩ := estimateWith_eq_unmodeled estimated
      cases answered
      rw [name_of_standardMode found]
      exact .unmodeled found uncoded made estimated

private theorem row_of_reports (reports : sweep.Reports name decibels row) :
    sweep.row mode tx rate decibels = .ok row := by
  -- The report is of some mode and transmission, but a name has one of each.
  cases reports with
  | modeled found' _ made' estimated sent' received _ _ _ =>
      cases Except.ok.inj (found.symm.trans found')
      cases Except.ok.inj (made.symm.trans made')
      cases Except.ok.inj (sent.symm.trans sent')
      rw [chunkAt] at estimated
      rw [row, ratioOfDecibels, estimated, ok_bind]
      dsimp only
      rw [received, ok_bind, name_of_standardMode found]
      rfl
  | unmodeled found' _ made' estimated =>
      cases Except.ok.inj (found.symm.trans found')
      cases Except.ok.inj (made.symm.trans made')
      rw [chunkAt] at estimated
      rw [row, ratioOfDecibels, estimated, ok_bind, ← name_of_standardMode found]
      rfl

end Row

private theorem modeRows_eq_ok_iff {sweep : Sweep α} {grid : Grid α} {name : String}
    {rows : List (SweepRow α)} :
    sweep.modeRows sweep.send grid name = .ok rows ↔
      sweep.Sends name ∧ List.Forall₂ (sweep.Reports name) grid.values rows := by
  constructor
  · intro answered
    obtain ⟨mode, found, answered⟩ := bind_eq_ok_iff.mp answered
    obtain ⟨⟨tx, rate⟩, sends, answered⟩ := bind_eq_ok_iff.mp answered
    obtain ⟨tx, made, sends⟩ := bind_eq_ok_iff.mp sends
    obtain ⟨rate, sent, sends⟩ := bind_eq_ok_iff.mp sends
    cases sends
    refine ⟨⟨mode, tx, rate, found, made, sent⟩, ?_⟩
    change grid.results (sweep.row mode tx rate) = .ok rows at answered
    rw [Grid.results_eq, mapM_eq_ok_iff] at answered
    exact answered.imp fun _ _ => reports_of_row found made sent
  · rintro ⟨⟨mode, tx, rate, found, made, sent⟩, reports⟩
    rw [modeRows, found, ok_bind, send, made, ok_bind, sent, ok_bind]
    change grid.results (sweep.row mode tx rate) = .ok rows
    rw [Grid.results_eq, mapM_eq_ok_iff]
    exact reports.imp fun _ _ => row_of_reports found made sent

private theorem rowsWith_append (sweep : Sweep α)
    (send : WifiMode α → Except (Fault α) (Transmission α × α)) (names others : List String) :
    { sweep with modes := names ++ others }.rowsWith send = do
      let first ← { sweep with modes := names }.rowsWith send
      let second ← { sweep with modes := others }.rowsWith send
      return first ++ second := by
  unfold rowsWith
  cases Grid.between sweep.start sweep.stop sweep.step with
  | error => rfl
  | ok grid =>
      have modes (names : List String) :
          { sweep with modes := names }.modeRows send grid = sweep.modeRows send grid := rfl
      simp only [ok_bind, List.mapM_append, modes]
      cases names.mapM (sweep.modeRows send grid) with
      | error => rfl
      | ok first =>
          cases others.mapM (sweep.modeRows send grid) with
          | error => rfl
          | ok second => simp [bind, Except.bind, pure, Except.pure]

private theorem exists_modeRows_iff {sweep : Sweep α}
    {send : WifiMode α → Except (Fault α) (Transmission α × α)} {grid : Grid α} {name : String} :
    (∃ rows, sweep.modeRows send grid name = .ok rows) ↔
      ∃ mode tx rate, standardMode name = .ok mode ∧ send mode = .ok (tx, rate) ∧
        ∀ decibels ∈ grid.values, ∃ row, sweep.row mode tx rate decibels = .ok row := by
  simp only [modeRows, bind_eq_ok_iff, Grid.results_eq, ← exists_mapM_eq_ok_iff]
  constructor
  · rintro ⟨rows, mode, found, ⟨tx, rate⟩, sent, answered⟩
    exact ⟨mode, tx, rate, found, sent, rows, answered⟩
  · rintro ⟨mode, tx, rate, found, sent, rows, answered⟩
    exact ⟨rows, mode, found, (tx, rate), sent, answered⟩

/-- A sweep has rows where its grid is one, and each of its modes is one that can be sent and has a
row at each point of the grid. -/
theorem exists_rowsWith_iff {sweep : Sweep α}
    {send : WifiMode α → Except (Fault α) (Transmission α × α)} :
    (∃ rows, sweep.rowsWith send = .ok rows) ↔
      ∃ grid, Grid.between sweep.start sweep.stop sweep.step = .ok grid ∧
        ∀ name ∈ sweep.modes, ∃ mode tx rate, standardMode name = .ok mode ∧
          send mode = .ok (tx, rate) ∧
          ∀ decibels ∈ grid.values, ∃ row, sweep.row mode tx rate decibels = .ok row := by
  constructor
  · rintro ⟨rows, answered⟩
    obtain ⟨grid, spaced, answered⟩ := bind_eq_ok_iff.mp answered
    obtain ⟨groups, swept, _⟩ := bind_eq_ok_iff.mp answered
    exact ⟨grid, spaced, fun name member =>
      exists_modeRows_iff.mp (exists_mapM_eq_ok_iff.mp ⟨groups, swept⟩ name member)⟩
  · rintro ⟨grid, spaced, each⟩
    obtain ⟨groups, swept⟩ := exists_mapM_eq_ok_iff.mpr fun name member =>
      exists_modeRows_iff.mpr (each name member)
    refine ⟨groups.flatten, ?_⟩
    rw [rowsWith, spaced, ok_bind, swept]
    rfl

/-- A point of a sweep has a row where the estimate has an answer and, if that is a success
probability, there is a bit error rate to go with it. -/
theorem exists_row_iff {sweep : Sweep α} {mode : WifiMode α} {tx : Transmission α}
    {rate decibels : α} :
    (∃ row, sweep.row mode tx rate decibels = .ok row) ↔
      ∃ result, estimate tx sweep.settings (sweep.chunkAt mode decibels) = .ok result ∧
        ∀ success, result = .modeled success → ∃ errorRate,
          bitErrorRate (Scalar.tenToThe (decibels / 10.0)) mode.constellation tx.width rate =
            .ok errorRate := by
  constructor
  · rintro ⟨row, answered⟩
    obtain ⟨result, estimated, answered⟩ := bind_eq_ok_iff.mp answered
    refine ⟨result, estimated, ?_⟩
    rintro success rfl
    obtain ⟨errorRate, received, _⟩ := bind_eq_ok_iff.mp answered
    exact ⟨errorRate, received⟩
  · rintro ⟨result, estimated, received⟩
    rw [chunkAt] at estimated
    rw [row, ratioOfDecibels, estimated, ok_bind]
    cases result with
    | modeled success =>
        obtain ⟨errorRate, received⟩ := received success rfl
        refine ⟨⟨mode.name, decibels, errorRate, some success⟩, ?_⟩
        dsimp only
        rw [received]
        rfl
    | unmodeled modulation => exact ⟨_, rfl⟩

/-- A sweep is accepted where its grid is, each mode is one that can be sent, and each mode has a
row to report at each point, and these are its rows, mode after mode. There are as many as pairs of
a mode and a point. More modes are swept as one sweep after the other. -/
theorem rows_pointwise (sweep : Sweep α) :
    (∀ rows, sweep.rows = .ok rows ↔
      ∃ points, decibelGrid sweep.start sweep.stop sweep.step = .ok points ∧
        (∀ name ∈ sweep.modes, sweep.Sends name) ∧
        List.Forall₂ (fun place => sweep.Reports place.1 place.2) (sweep.modes ×ˢ points) rows ∧
        rows.length = sweep.modes.length * points.length) ∧
    ∀ names others, { sweep with modes := names ++ others }.rows = do
      let first ← { sweep with modes := names }.rows
      let second ← { sweep with modes := others }.rows
      return first ++ second := by
  refine ⟨fun rows => ⟨?_, ?_⟩, sweep.rowsWith_append sweep.send⟩
  · intro answered
    obtain ⟨grid, spaced, answered⟩ := bind_eq_ok_iff.mp answered
    obtain ⟨groups, swept, answered⟩ := bind_eq_ok_iff.mp answered
    cases answered
    have grouped := (mapM_eq_ok_iff.mp swept).imp fun _ _ => modeRows_eq_ok_iff.mp
    obtain ⟨sends, reports⟩ := (List.forall₂_and_left _ _).mp grouped
    have pairs := forall₂_product_iff.mpr ⟨groups, rfl, reports⟩
    refine ⟨grid.values, decibelGrid_eq_ok_iff.mpr ⟨grid, spaced, rfl⟩, sends, pairs, ?_⟩
    rw [← pairs.length_eq, List.length_product]
  · rintro ⟨points, spaced, sends, pairs, _⟩
    obtain ⟨grid, between, rfl⟩ := decibelGrid_eq_ok_iff.mp spaced
    obtain ⟨groups, rfl, reports⟩ := forall₂_product_iff.mp pairs
    have grouped := (List.forall₂_and_left _ _).mpr ⟨sends, reports⟩
    have swept := mapM_eq_ok_iff.mpr (grouped.imp fun _ _ => modeRows_eq_ok_iff.mpr)
    rw [rows, rowsWith, between, ok_bind, swept]
    rfl

/-! ## A sample -/

section Sample

open Exact

variable {tail : ErrorTail}

variable (tail) in
/-- A plain OFDM mode and one that is not modeled, at two points. -/
noncomputable def shortSweep : Sweep (Exact tail) where
  modes := ["OfdmRate6Mbps", "DsssRate1Mbps"]
  width := finite 20
  bits := .integer 8
  start := finite 0
  stop := finite 1
  step := finite 1
  streams := 1
  guardInterval := 800
  settings := .standard

private theorem shortSweep_grid :
    decibelGrid (finite 0 : Exact tail) (finite 1) (finite 1) = .ok [finite 0, finite 1] := by
  have whole : (1 : ℝ) - 0 = (1 : ℕ) * 1 := by norm_num
  have size : gridSize 0 1 1 = 2 := gridSize_of_multiple one_pos whole
  rw [decibelGrid_finite one_pos zero_le_one, size]
  simp [List.range_succ]

private theorem shortSweep_snr_valid (mode : WifiMode (Exact tail)) (decibels : ℝ) :
    ValidQuestion ((shortSweep tail).chunkAt mode (finite decibels)) := by
  have ten : (10.0 : ℝ) ≠ 0 := by norm_num
  have snr : Scalar.tenToThe ((finite decibels : Exact tail) / 10.0) =
      finite ((10 : ℝ) ^ (decibels / 10.0)) := by
    rw [ofScientific_eq, finite_div_finite _ ten]
    rfl
  refine ⟨?_, 8, rfl⟩
  rw [chunkAt, snr, ofScientific_eq, finite_le_finite]
  norm_num
  positivity

private theorem exists_reports_plain (decibels : ℝ) :
    ∃ errorRate success, (shortSweep tail).Sends "OfdmRate6Mbps" ∧
      (shortSweep tail).Reports "OfdmRate6Mbps" (finite decibels)
        ⟨"OfdmRate6Mbps", finite decibels, errorRate, some success⟩ := by
  let mode : WifiMode (Exact tail) := ⟨"OfdmRate6Mbps", .ofdm, 2, .half, 0.0⟩
  have found : standardMode "OfdmRate6Mbps" = .ok mode := by rfl
  have wide : ¬(finite 20 : Exact tail) ≤ 0.0 := WifiMode.not_twenty_nonpos
  have made := Transmission.singleUser_of_wide mode 1 800 wide
  have listed : mode.Listed := ⟨.half, by
    change (2, CodeRate.half, DistanceSpectrum.half) ∈ DistanceSpectrum.table
    decide⟩
  have own : mode.sameAs mode := by simp [WifiMode.sameAs, mode]
  obtain ⟨success, estimated⟩ := exists_probability_of_accepts rfl listed own ofdm_accepts_twenty
    made .standard (shortSweep_snr_valid mode decibels)
  obtain ⟨coded, bits, spectrum, rate, counted, _, listed, sent, survives⟩ :=
    estimateWith_eq_modeled estimated
  obtain ⟨errorRate, received, survives⟩ := bind_eq_ok_iff.mp survives
  exact ⟨errorRate, finite success, ⟨mode, _, rate, found, made, sent⟩,
    .modeled found coded made estimated sent received counted listed survives⟩

private theorem reports_unmodeled (decibels : ℝ) :
    (shortSweep tail).Sends "DsssRate1Mbps" ∧
      (shortSweep tail).Reports "DsssRate1Mbps" (finite decibels)
        ⟨"DsssRate1Mbps", finite decibels, Scalar.notANumber, none⟩ := by
  let mode : WifiMode (Exact tail) := ⟨"DsssRate1Mbps", .dsss, 2, .undefined, 1e6⟩
  have found : standardMode "DsssRate1Mbps" = .ok mode := by rfl
  have wide : ¬(finite 20 : Exact tail) ≤ 0.0 := WifiMode.not_twenty_nonpos
  have made := Transmission.singleUser_of_wide mode 1 800 wide
  have own : mode.sameAs mode := by simp [WifiMode.sameAs, mode]
  have uncoded : ¬mode.isCodedOfdm := by
    change ¬ModulationClass.dsss.isCodedOfdm
    decide
  have rate : mode.phyRate (finite 20) 1 800 = .ok 1e6 := by
    rw [WifiMode.phyRate, WifiMode.phyRateWith, if_neg wide]
    rfl
  have sent := (Transmission.effectiveRate_single wide own commonStation .standard).trans rate
  exact ⟨⟨mode, _, _, found, made, sent⟩, .unmodeled found uncoded made
    (estimate_of_not_coded (shortSweep_snr_valid mode decibels) uncoded)⟩

/-- The sample is accepted, and has its four rows in this order. -/
theorem shortSweep_rows :
    ∃ errorRate success errorRate' success',
      (shortSweep gaussianTail).rows = .ok
        [ ⟨"OfdmRate6Mbps", finite 0, errorRate, some success⟩,
          ⟨"OfdmRate6Mbps", finite 1, errorRate', some success'⟩,
          ⟨"DsssRate1Mbps", finite 0, notANumber, none⟩,
          ⟨"DsssRate1Mbps", finite 1, notANumber, none⟩ ] := by
  obtain ⟨errorRate, success, sends, first⟩ := exists_reports_plain 0
  obtain ⟨errorRate', success', _, second⟩ := exists_reports_plain 1
  obtain ⟨sends', third⟩ := reports_unmodeled 0
  obtain ⟨_, fourth⟩ := reports_unmodeled 1
  refine ⟨errorRate, success, errorRate', success', ?_⟩
  refine ((rows_pointwise (shortSweep gaussianTail)).1 _).mpr
    ⟨_, shortSweep_grid, ?_, .cons first (.cons second (.cons third (.cons fourth .nil))), rfl⟩
  intro name member
  simp only [shortSweep, List.mem_cons, List.not_mem_nil, or_false] at member
  rcases member with rfl | rfl
  · exact sends
  · exact sends'

end Sample

end Sweep

end WifiLink
