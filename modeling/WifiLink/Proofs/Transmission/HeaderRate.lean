import WifiLink.Proofs.Double.Order
import WifiLink.Proofs.Mode.RateLaws

/-!
# Where header and payload rates meet

A header rate leaves out the streams and the guard interval of the transmission and caps its
width. Where none of the three makes a difference to a mode, a field in that mode has the mode's
rate on the whole channel, whichever of the two rates it is sent at. Nothing is calculated to see
this, so it holds of all numbers whose order caps widths, doubles and exact numbers among them.
-/

namespace WifiLink

open Exact

variable {α : Type} [Scalar α]

/-! ## Caps -/

/-- An order that caps widths. -/
structure Scalar.CapsWidths (α : Type) [Scalar α] : Prop where
  not_lt_of_le {x y : α} : x ≤ y → ¬y < x
  le_trans {x y z : α} : x ≤ y → y ≤ z → x ≤ z
  lt_of_le_of_lt {x y z : α} : x ≤ y → y < z → x < z
  /-- Widths that it does not tell apart are one. -/
  eq_of_le_of_not_lt {x y : α} : ¬x ≤ 0.0 → x ≤ y → ¬x < y → x = y
  twenty_positive : ¬(20.0 : α) ≤ 0.0

private theorem Double.capsWidths : Scalar.CapsWidths Float where
  not_lt_of_le := not_lt_of_le
  le_trans := le_trans
  lt_of_le_of_lt := lt_of_le_of_lt
  eq_of_le_of_not_lt := eq_of_le_of_not_lt
  twenty_positive := by decide

private theorem Exact.capsWidths (tail : ErrorTail) : Scalar.CapsWidths (Exact tail) where
  not_lt_of_le := not_below_of_atMost
  le_trans := atMost_trans
  lt_of_le_of_lt := below_of_atMost_of_below
  eq_of_le_of_not_lt _ := eq_of_atMost_of_not_below
  twenty_positive := by norm_num

namespace Scalar.CapsWidths

variable (caps : Scalar.CapsWidths α) {width cap share : α}
include caps

private theorem least_of_le (uncapped : width ≤ cap) : least width cap = width :=
  if_neg (caps.not_lt_of_le uncapped)

/-- A cap does not show below a lower one. -/
theorem least_least_of_le (positive : ¬share ≤ 0.0) (lower : share ≤ cap) :
    least (least width cap) share = least width share := by
  by_cases capped : cap < width
  · have inner : least width cap = cap := if_pos capped
    have outer : least width share = share := if_pos (caps.lt_of_le_of_lt lower capped)
    rw [inner, outer, least]
    split_ifs with apart
    · rfl
    · exact (caps.eq_of_le_of_not_lt positive lower apart).symm
  · have inner : least width cap = width := if_neg capped
    rw [inner]

private theorem least_not_nonpos (positive : ¬width ≤ 0.0) (wide : 20.0 ≤ cap) :
    ¬least width cap ≤ 0.0 := by
  rw [least]
  split_ifs with capped
  · exact fun narrow => caps.twenty_positive (caps.le_trans wide narrow)
  · exact positive

end Scalar.CapsWidths

/-! ## Rates of a mode -/

private theorem calculates_guardTime (guardInterval : Int) :
    Calculates (guardTime guardInterval : Except (Fault α) α) :=
  .bind (.lift _) fun _ => .ok _

private theorem subcarriers_eq_error {modulation : ModulationClass} {width : α} {fault : Fault α}
    (failed : subcarriers modulation width = .error fault) :
    fault = .unsupportedWidth width ∨ ∃ cause, fault = .arithmetic cause := by
  unfold subcarriers at failed
  split at failed
  · cases failed
  split_ifs at failed
  · refine .inr (Calculates.bind ?_ ?_ fault failed)
    · exact .lift _
    · exact fun base => .bind (.lift _) fun share => .ok _
  · exact .inl (Except.error.inj failed).symm

/-- Two answers that are one failure, or numbers that are the same. -/
inductive SameAnswer : Except (Fault α) α → Except (Fault α) α → Prop
  | equal {answer : Except (Fault α) α} : SameAnswer answer answer
  | number {rate rate' : α} : Scalar.same rate rate' → SameAnswer (.ok rate) (.ok rate')

private theorem SameAnswer.eq_error {answer answer' : Except (Fault α) α} {fault : Fault α}
    (same : SameAnswer answer answer') (failed : answer' = .error fault) :
    answer = .error fault := by
  cases same with
  | equal => exact failed
  | number => cases failed

namespace WifiMode

variable {mode other : WifiMode α} {width width' : α} {streams streams' guardInterval : Int}

private theorem calculates_bitsPerSymbol (mode : WifiMode α) : Calculates mode.bitsPerSymbol :=
  .bind (.lift _) fun _ => .lift _

/-- On a channel that is there, for one stream at least, a rate can lack just the width. -/
theorem phyRate_eq_error (wide : ¬width ≤ 0.0) (some : 1 ≤ streams) {fault : Fault α}
    (failed : mode.phyRate width streams guardInterval = .error fault) :
    fault = .unsupportedWidth width ∨ ∃ cause, fault = .arithmetic cause := by
  have plain : Calculates (mode.bitsPerSymbol >>= fun bits => do
      let symbol ← Scalar.ofInt (48 * bits)
      return symbol * (Scalar.least width 20.0 / 20.0) / 4e-6) :=
    .bind (calculates_bitsPerSymbol mode) fun _ => .bind (.lift _) fun _ => .ok _
  rw [phyRate, phyRateWith, if_neg wide, ok_bind, if_neg (not_lt.mpr some)] at failed
  split at failed
  · cases failed
  · cases failed
  · exact .inr (plain fault failed)
  · exact .inr (plain fault failed)
  · cases taken : subcarriers mode.modulation width with
    | error cause =>
        rw [taken] at failed
        cases failed
        exact subcarriers_eq_error taken
    | ok carriers =>
        rw [taken, ok_bind] at failed
        refine .inr (Calculates.bind (calculates_guardTime guardInterval) ?_ fault failed)
        exact fun _ => .bind (calculates_bitsPerSymbol mode) fun _ => .bind (.lift _) fun _ =>
          .lift _

private theorem phyRate_ne_unknownStation (station : Int) :
    mode.phyRate width streams guardInterval ≠ .error (.unknownStation station) := by
  intro unknown
  by_cases wide : width ≤ 0.0
  · rw [phyRate, phyRateWith, if_pos wide] at unknown
    cases unknown
  by_cases none : streams < 1
  · rw [phyRate, phyRateWith, if_neg wide, ok_bind, if_pos none] at unknown
    cases unknown
  · rcases phyRate_eq_error wide (not_lt.mp none) unknown with width | ⟨_, arithmetic⟩
    · cases width
    · cases arithmetic

private theorem phyRate_of_not_coded (uncoded : ¬mode.isCodedOfdm) :
    mode.phyRate width streams guardInterval =
      if width ≤ 0.0 then .error .widthNotPositive
      else if streams < 1 then .error .noSpatialStream else .ok mode.fixedRate := by
  rw [phyRate, phyRateWith, ok_bind]
  cases modulation : mode.modulation with
  | dsss | hrDsss => rfl
  | _ => exact absurd (by rw [isCodedOfdm, modulation]; rfl) uncoded

/-- The fixed rates of modes that are the same can be two zeros of different signs. -/
theorem sameAnswer_of_sameAs (same : mode.sameAs other) :
    SameAnswer (mode.phyRate width streams guardInterval)
      (other.phyRate width streams guardInterval) := by
  by_cases coded : mode.isCodedOfdm
  · rw [phyRate_of_sameAs coded same]
    exact .equal
  have uncoded : ¬other.isCodedOfdm := by
    rw [isCodedOfdm, (sameAs_spec same).1]
    exact coded
  rw [phyRate_of_not_coded coded, phyRate_of_not_coded uncoded]
  split_ifs
  · exact .equal
  · exact .equal
  · rw [sameAs, Bool.and_eq_true] at same
    exact .number same.2

/-- Without a table of widths, all that counts of a channel is what it has up to 20 MHz, and of
the streams that there is one. -/
theorem phyRate_of_untabled
    (untabled : ¬mode.modulation.isTabled) (wide : ¬width ≤ 0.0) (wide' : ¬width' ≤ 0.0)
    (share : Scalar.least width 20.0 = Scalar.least width' 20.0)
    (some : 1 ≤ streams) (some' : 1 ≤ streams') (guardInterval guardInterval' : Int) :
    mode.phyRate width streams guardInterval = mode.phyRate width' streams' guardInterval' := by
  rw [phyRate, phyRate, phyRateWith, phyRateWith, if_neg wide, if_neg wide', ok_bind, ok_bind,
    if_neg (not_lt.mpr some), if_neg (not_lt.mpr some')]
  cases modulation : mode.modulation with
  | dsss | hrDsss => rfl
  | erpOfdm | ofdm => dsimp only; rw [share]
  | ht | vht | he | eht => exact absurd (by rw [modulation]; rfl) untabled

end WifiMode

/-! ## Rates of a transmission -/

namespace Transmission

variable {tx : Transmission α} {mode : WifiMode α} {station : Int} {settings : Settings α}

private theorem effectiveRate_ne_unknownStation_iff :
    tx.effectiveRate mode station settings ≠ .error (.unknownStation station) ↔
      tx.SentAsHeader mode station ∨ tx.Knows station := by
  constructor
  · intro known
    by_contra outside
    rw [not_or] at outside
    exact known (effectiveRate_unknown outside.2 outside.1 settings)
  · intro inside
    by_cases sent : tx.SentAsHeader mode station
    · rw [effectiveRate_header sent]
      exact WifiMode.phyRate_ne_unknownStation station
    · obtain ⟨own, _, equation⟩ :=
        exists_effectiveRate_eq_of_payload (inside.resolve_left sent) sent settings
      rw [equation]
      exact WifiMode.phyRate_ne_unknownStation station

/-- What makes the header rate of a mode the rate of its payload. -/
inductive RatesMeet (tx : Transmission α) (settings : Settings α) (mode : WifiMode α) : Prop
  | standard :
      tx.width ≤ settings.headerWidth → tx.streams = 1 → tx.guardInterval = 800 →
        RatesMeet tx settings mode
  | untabled :
      ¬mode.modulation.isTabled → 1 ≤ tx.streams →
        20.0 ≤ settings.headerWidth ∨ tx.width ≤ settings.headerWidth →
          RatesMeet tx settings mode

section RatesMeet

variable (caps : Scalar.CapsWidths α)

include caps in
private theorem headerWidth_of_le (uncapped : tx.width ≤ settings.headerWidth) :
    tx.headerWidth settings = tx.width :=
  caps.least_of_le uncapped

include caps in
private theorem RatesMeet.header_eq (meet : RatesMeet tx settings mode) :
    mode.phyRate (tx.headerWidth settings) = mode.phyRate tx.width := by
  cases meet with
  | standard uncapped => rw [headerWidth_of_le caps uncapped]
  | untabled untabled _ wide =>
      rcases wide with whole | uncapped
      · exact WifiMode.phyRate_of_untabled untabled
          (caps.least_not_nonpos tx.width_positive whole) tx.width_positive
          (caps.least_least_of_le caps.twenty_positive whole) le_rfl le_rfl _ _
      · rw [headerWidth_of_le caps uncapped]

private theorem RatesMeet.payload_eq (meet : RatesMeet tx settings mode) :
    mode.phyRate tx.width tx.streams tx.guardInterval = mode.phyRate tx.width := by
  cases meet with
  | standard _ one standard => rw [one, standard]
  | untabled untabled some =>
      exact WifiMode.phyRate_of_untabled untabled tx.width_positive tx.width_positive rfl some
        le_rfl _ _

variable (known : tx.effectiveRate mode station settings ≠ .error (.unknownStation station))
include known

/-- A rate that both paths lead to is that of the field, up to the station's own mode. -/
theorem sameAnswer_effectiveRate {answer : Except (Fault α) α}
    (header : mode.phyRate (tx.headerWidth settings) = answer)
    (payload : mode.phyRate tx.width tx.streams tx.guardInterval = answer) :
    SameAnswer answer (tx.effectiveRate mode station settings) := by
  by_cases sent : tx.SentAsHeader mode station
  · rw [effectiveRate_header sent, header]
    exact .equal
  · have takesPart := (effectiveRate_ne_unknownStation_iff.mp known).resolve_left sent
    obtain ⟨own, same, equation⟩ := exists_effectiveRate_eq_of_payload takesPart sent settings
    rw [equation, ← payload]
    exact WifiMode.sameAnswer_of_sameAs same

end RatesMeet

/-- Where the rates meet, every field in the mode is sent at the mode's own rate on the whole
channel, be it as a header or as a payload. It has no rate where the width is unsupported or a
calculation fails. -/
theorem effectiveRate_sameAnswer
    (caps : Scalar.CapsWidths α) (tx : Transmission α) (settings : Settings α) (mode : WifiMode α)
    (station : Int)
    (known : tx.effectiveRate mode station settings ≠ .error (.unknownStation station))
    (meet : tx.RatesMeet settings mode) :
    SameAnswer (mode.phyRate tx.width) (tx.effectiveRate mode station settings) ∧
      ∀ fault, tx.effectiveRate mode station settings = .error fault →
        fault = .unsupportedWidth tx.width ∨ ∃ cause, fault = .arithmetic cause := by
  have same : SameAnswer (mode.phyRate tx.width) (tx.effectiveRate mode station settings) :=
    sameAnswer_effectiveRate known (meet.header_eq caps) meet.payload_eq
  exact ⟨same, fun fault failed =>
    WifiMode.phyRate_eq_error tx.width_positive le_rfl (same.eq_error failed)⟩

/-! ## A sample -/

section Sample

variable (α) in
/-- A mode that fills 20 MHz. -/
def erpMode : WifiMode α where
  name := "ErpOfdmRate24Mbps"
  modulation := .erpOfdm
  constellation := 16
  codeRate := .half
  fixedRate := 0.0

/-- A multi-user transmission in this mode, with more of everything than its headers have. -/
def erpTransmission (wide : ¬(40.0 : α) ≤ 0.0) : Transmission α where
  width := 40.0
  stations := [(1, erpMode α)]
  isMultiUser := true
  streams := 2
  guardInterval := 3200
  width_positive := wide
  stations_nonempty := List.cons_ne_nil _ _

variable {wide : ¬(40.0 : α) ≤ 0.0} {settings : Settings α}

private theorem erpTransmission_meets (whole : 20.0 ≤ settings.headerWidth) :
    (erpTransmission wide).RatesMeet settings (erpMode α) :=
  .untabled Bool.false_ne_true (by decide : (1 : Int) ≤ 2) (.inl whole)

private theorem erpTransmission_knows : (erpTransmission wide).Knows 1 :=
  fun _ => ⟨_, List.mem_singleton_self _, rfl⟩

private theorem erpTransmission_common :
    (erpTransmission wide).SentAsHeader (erpMode α) commonStation :=
  .inl ⟨rfl, rfl⟩

private theorem double_forty_positive : ¬(40.0 : Float) ≤ 0.0 := by
  decide

private theorem exact_forty_positive : ¬(40.0 : Exact gaussianTail) ≤ 0.0 := by
  norm_num

/-- The payload of its station in doubles, and its common fields in exact numbers. -/
theorem erpTransmission_rates :
    SameAnswer ((erpMode Float).phyRate 40.0)
        ((erpTransmission double_forty_positive).effectiveRate (erpMode Float) 1 .standard) ∧
      SameAnswer ((erpMode (Exact gaussianTail)).phyRate 40.0)
        ((erpTransmission exact_forty_positive).effectiveRate (erpMode _) commonStation
          .standard) := by
  have doubleWide : 20.0 ≤ (Settings.standard : Settings Float).headerWidth := by decide
  have exactWide : 20.0 ≤ (Settings.standard : Settings (Exact gaussianTail)).headerWidth :=
    (finite_le_finite _ _).mpr le_rfl
  exact ⟨(effectiveRate_sameAnswer Double.capsWidths _ _ _ 1
      (effectiveRate_ne_unknownStation_iff.mpr (.inr erpTransmission_knows))
      (erpTransmission_meets doubleWide)).1,
    (effectiveRate_sameAnswer (Exact.capsWidths _) _ _ _ commonStation
      (effectiveRate_ne_unknownStation_iff.mpr (.inl erpTransmission_common))
      (erpTransmission_meets exactWide)).1⟩

end Sample

end Transmission

end WifiLink
