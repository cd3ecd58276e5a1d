import WifiLink.Proofs.Settings.Document
import WifiLink.Proofs.SnrSearch.Outcome

/-!
# Bounds of the settings

A bound that is written as a refusal lets through what compares with nothing. The bounds of the
search are asked for, so they hold of all settings that are accepted; header width and precision
are only not refused, and may be no number. Only initial settings or a line of a text that say so
make them so.
-/

namespace WifiLink

namespace Scalar

/-- The order of a kind of numbers is total on the numbers, and what is no number compares with
nothing. Zero is a number, and so is everything that is not spelled as none. -/
structure OrdersNumbers (α : Type) [Scalar α] : Prop where
  total {x y : α} : isNaN x = false → isNaN y = false → x ≤ y ∨ y < x
  not_lt_of_le {x y : α} : x ≤ y → ¬y < x
  not_le_of_isNaN {x y : α} : isNaN x → ¬x ≤ y ∧ ¬y ≤ x
  not_lt_of_isNaN {x y : α} : isNaN x → ¬x < y ∧ ¬y < x
  isNaN_zero : isNaN (0.0 : α) = false
  isNaN_ofNumeral {numeral : Numeral} :
    isNaN (ofNumeral numeral : α) ↔ numeral = .notANumber

namespace OrdersNumbers

variable {α : Type} [Scalar α] (orders : OrdersNumbers α) {x : α}
include orders

private theorem not_le_zero_iff : ¬x ≤ 0.0 ↔ 0.0 < x ∨ isNaN x := by
  constructor
  · intro above
    cases missing : isNaN x with
    | true => exact .inr rfl
    | false => exact .inl ((orders.total missing orders.isNaN_zero).resolve_left above)
  · rintro (positive | missing)
    · exact fun below => orders.not_lt_of_le below positive
    · exact (orders.not_le_of_isNaN missing).1

private theorem isNaN_of_pos (positive : 0.0 < x) : isNaN x = false := by
  by_contra missing
  rw [Bool.not_eq_false] at missing
  exact (orders.not_lt_of_isNaN missing).2 positive

end OrdersNumbers

end Scalar

namespace Exact

variable {tail : ErrorTail}

private theorem isNaN_iff {x : Exact tail} : Scalar.isNaN x ↔ x = notANumber := by
  cases x with
  | finite a => simp
  | infinite negative =>
      have reflexive : (infinite negative : Exact tail) ≤ infinite negative := by
        change negative = true ∨ negative = false
        cases negative <;> simp
      simp [Scalar.isNaN, reflexive]
  | notANumber => simp [Scalar.isNaN, not_notANumber_le]

private theorem le_or_lt_of_ne_notANumber {x y : Exact tail} (left : x ≠ notANumber)
    (right : y ≠ notANumber) : x ≤ y ∨ y < x := by
  change atMost x y ∨ below y x
  cases x with
  | notANumber => exact absurd rfl left
  | finite a =>
      cases y with
      | notANumber => exact absurd rfl right
      | finite b => exact le_or_gt a b
      | infinite negative => cases negative <;> simp [atMost, below]
  | infinite negative =>
      cases y with
      | notANumber => exact absurd rfl right
      | finite b => cases negative <;> simp [atMost, below]
      | infinite other => cases negative <;> cases other <;> simp [atMost, below]

private theorem ordersNumbers (tail : ErrorTail) : Scalar.OrdersNumbers (Exact tail) where
  total {x y} left right := by
    rw [← Bool.not_eq_true, isNaN_iff] at left right
    exact le_or_lt_of_ne_notANumber left right
  not_lt_of_le := not_below_of_atMost
  not_le_of_isNaN {x y} missing := by
    rw [isNaN_iff.mp missing]
    exact ⟨not_notANumber_le y, not_le_notANumber y⟩
  not_lt_of_isNaN {x y} missing := by
    rw [isNaN_iff.mp missing]
    constructor
    · exact id
    · cases y <;> exact id
  isNaN_zero := by rw [ofScientific_eq, isNaN_finite]
  isNaN_ofNumeral {numeral} := by
    rw [isNaN_iff]
    cases numeral <;> simp [Scalar.ofNumeral, Exact.ofNumeral]

end Exact

namespace Settings

variable {α : Type} [Scalar α]

/-- Every bound holds. -/
structure Usable (settings : Settings α) : Prop where
  headerWidth : 0.0 < settings.headerWidth
  low : 0.0 < settings.searchLow
  high : settings.searchLow < settings.searchHigh
  precision : 0.0 < settings.searchPrecision
  iterations : 1 ≤ settings.searchIterations

/-- Every bound holds, but header width and precision may be no numbers. -/
structure Bounded (settings : Settings α) : Prop where
  headerWidth : 0.0 < settings.headerWidth ∨ Scalar.isNaN settings.headerWidth
  low : 0.0 < settings.searchLow
  high : settings.searchLow < settings.searchHigh
  precision : 0.0 < settings.searchPrecision ∨ Scalar.isNaN settings.searchPrecision
  iterations : 1 ≤ settings.searchIterations

/-- The line spells out that header width or precision is no number. -/
def SpellsMissing (line : List Char) : Prop :=
  ∃ (parts : Assignment) (key : Key), parts.text = line.takeWhile (· ≠ '#') ∧
    key.IsSpelled parts.name ∧ (key = .headerWidth ∨ key = .searchPrecision) ∧
    Numeral.ofText? (String.ofList parts.value) = some .notANumber

section Bounds

variable (orders : Scalar.OrdersNumbers α) {settings initial merged : Settings α}
  {lines : List (List Char)} {line : List Char}
include orders

private theorem permitted_iff_bounded : Permitted settings ↔ Bounded settings := by
  constructor
  · intro permitted
    exact ⟨orders.not_le_zero_iff.mp permitted.headerWidth, permitted.bounds.1,
      permitted.bounds.2, orders.not_le_zero_iff.mp permitted.precision, permitted.iterations⟩
  · intro bounded
    exact ⟨orders.not_le_zero_iff.mpr bounded.headerWidth, ⟨bounded.low, bounded.high⟩,
      orders.not_le_zero_iff.mpr bounded.precision, bounded.iterations⟩

private theorem usable_iff :
    Usable settings ↔ Bounded settings ∧
      Scalar.isNaN settings.headerWidth = false ∧
      Scalar.isNaN settings.searchPrecision = false := by
  constructor
  · intro usable
    exact ⟨⟨.inl usable.headerWidth, usable.low, usable.high, .inl usable.precision,
      usable.iterations⟩, orders.isNaN_of_pos usable.headerWidth,
      orders.isNaN_of_pos usable.precision⟩
  · rintro ⟨bounded, width, precision⟩
    have wide := bounded.headerWidth
    have coarse := bounded.precision
    rw [width] at wide
    rw [precision] at coarse
    exact ⟨wide.resolve_right Bool.false_ne_true, bounded.low, bounded.high,
      coarse.resolve_right Bool.false_ne_true, bounded.iterations⟩

private theorem spellsMissing_of_sets {change : Change α} (sets : Sets line change) {value : α}
    (holds : change = .headerWidth value ∨ change = .searchPrecision value)
    (missing : Scalar.isNaN value) : SpellsMissing line := by
  obtain ⟨parts, equal, named, read⟩ := sets
  rcases holds with rfl | rfl <;>
  · cases read with
    | _ spelled =>
      rw [orders.isNaN_ofNumeral.mp missing] at spelled
      exact ⟨parts, _, equal, named, by simp [Change.key], spelled⟩

/-- What is no number in merged settings was none before, or a line says so. -/
theorem spellsMissing_of_merges (merges : Merges lines initial merged) (usable : Usable initial)
    (missing : Scalar.isNaN merged.headerWidth ∨ Scalar.isNaN merged.searchPrecision) :
    ∃ line ∈ lines, SpellsMissing line := by
  have of_last {change : Change α} (last : SetsLast lines change) {value : α}
      (holds : change = .headerWidth value ∨ change = .searchPrecision value)
      (missing : Scalar.isNaN value) : ∃ line ∈ lines, SpellsMissing line := by
    obtain ⟨before, line, after, rfl, sets, _⟩ := last
    exact ⟨line, by simp, spellsMissing_of_sets orders sets holds missing⟩
  rcases missing with missing | missing
  · rcases merges .headerWidth with last | ⟨_, kept⟩
    · exact of_last last (.inl rfl) missing
    · injection kept with kept
      rw [kept, orders.isNaN_of_pos usable.headerWidth] at missing
      cases missing
  · rcases merges .searchPrecision with last | ⟨_, kept⟩
    · exact of_last last (.inr rfl) missing
    · injection kept with kept
      rw [kept, orders.isNaN_of_pos usable.precision] at missing
      cases missing

/-! ## What missing numbers lead to -/

/-- Headers take the whole channel. -/
theorem headerWidth_of_isNaN (missing : Scalar.isNaN settings.headerWidth) (tx : Transmission α) :
    tx.headerWidth settings = tx.width :=
  if_neg (orders.not_lt_of_isNaN missing).1

/-- No bracket is ever narrow enough. -/
theorem searchSnr_ne_ok_of_isNaN (missing : Scalar.isNaN settings.searchPrecision)
    (tx : Transmission α) (target snr : α) : tx.searchSnr settings target ≠ .ok snr := by
  intro answered
  obtain ⟨_, _, _, _, final, _, narrow, _⟩ := Transmission.searchSnr_eq_ok answered
  exact (orders.not_le_of_isNaN missing).2 narrow

end Bounds

/-- Settings are accepted just if they are bounded, and refused if not; so whatever a text says, it
is refused or makes bounded settings. These are usable when header width and precision are numbers,
and unless a line says otherwise they are, if they were in the initial settings. -/
theorem accepted_bounded (orders : Scalar.OrdersNumbers α) :
    (∀ settings : Settings α,
      (Bounded settings → settings.checked = .ok settings) ∧
      (¬Bounded settings → Refused settings.checked)) ∧
    (∀ settings : Settings α, Usable settings ↔ Bounded settings ∧
      Scalar.isNaN settings.headerWidth = false ∧
      Scalar.isNaN settings.searchPrecision = false) ∧
    ∀ (text : String) (initial : Settings α), Refused (ofText text initial) ∨
      ∃ settings, ofText text initial = .ok settings ∧ Bounded settings ∧
        (Usable initial → ¬Usable settings →
          ∃ line ∈ Text.lines text.toList, SpellsMissing line) := by
  refine ⟨fun settings => ⟨?_, ?_⟩, fun settings => usable_iff orders, ?_⟩
  · intro bounded
    exact checked_of_permitted ((permitted_iff_bounded orders).mpr bounded)
  · intro unbounded
    exact refused_of_not_permitted fun permitted =>
      unbounded ((permitted_iff_bounded orders).mp permitted)
  · intro text initial
    rcases ofText_cases text initial with refused | ⟨merged, merges, permitted, answered⟩
    · exact .inl refused
    · have bounded := (permitted_iff_bounded orders).mp permitted
      refine .inr ⟨merged, answered, bounded, fun usable unusable => ?_⟩
      apply spellsMissing_of_merges orders merges usable
      by_contra numbers
      rw [not_or, Bool.not_eq_true, Bool.not_eq_true] at numbers
      exact unusable ((usable_iff orders).mpr ⟨bounded, numbers⟩)

/-- A line that spells no number for the header width makes settings that are not usable. -/
theorem standard_missing_headerWidth :
    ∃ settings : Settings (Exact gaussianTail),
      Usable (standard : Settings (Exact gaussianTail)) ∧
      ofText "header_width_mhz: nan" standard = .ok settings ∧ Bounded settings ∧
      ¬Usable settings ∧ Scalar.isNaN settings.headerWidth ∧
      ∃ line ∈ Text.lines "header_width_mhz: nan".toList, SpellsMissing line := by
  obtain ⟨accepts, usable_iff, texts⟩ := accepted_bounded (Exact.ordersNumbers gaussianTail)
  have usable : Usable (standard : Settings (Exact gaussianTail)) := by
    constructor <;>
    · simp only [standard, Exact.ofScientific_eq, Exact.finite_lt_finite]
      norm_num
  have bounded : Bounded ({ (standard : Settings (Exact gaussianTail)) with
      headerWidth := Exact.notANumber }) :=
    ⟨.inr (Exact.isNaN_iff.mpr rfl), usable.low, usable.high, .inl usable.precision,
      usable.iterations⟩
  have read : ofText "header_width_mhz: nan" (standard : Settings (Exact gaussianTail)) =
      .ok { (standard : Settings (Exact gaussianTail)) with headerWidth := Exact.notANumber } :=
    (accepts _).1 bounded
  have unusable : ¬Usable ({ (standard : Settings (Exact gaussianTail)) with
      headerWidth := Exact.notANumber }) := by
    intro usable
    exact absurd ((usable_iff _).mp usable).2.1 (by simp [Exact.isNaN_iff])
  refine ⟨_, usable, read, bounded, unusable, Exact.isNaN_iff.mpr rfl, ?_⟩
  rcases texts "header_width_mhz: nan" standard with refused | ⟨settings, answered, _, spelled⟩
  · rw [read] at refused
    exact absurd refused (not_refused_ok _)
  · cases Except.ok.inj (read.symm.trans answered)
    exact spelled usable unusable

end Settings

end WifiLink
