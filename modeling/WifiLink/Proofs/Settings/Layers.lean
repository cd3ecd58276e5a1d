import WifiLink.Proofs.Exact.GaussianTail
import WifiLink.Proofs.Settings.Document

/-!
# Settings texts in layers

A text below another one says what it would say alone, of the settings that the upper one makes.
The upper text only moves the numbers of faulty lines on.
-/

namespace WifiLink

/-- What is wrong with a line is told of the line that has so many more above it. -/
def Fault.below {α : Type} (above : Nat) : Fault α → Fault α
  | .settingsLine number fault => .settingsLine (above + number) fault
  | fault => fault

private theorem Fault.refusesQuestion_below {α : Type} (above : Nat) (fault : Fault α) :
    (fault.below above).refusesQuestion = fault.refusesQuestion := by
  cases fault <;> rfl

namespace Settings

variable {α : Type} [Scalar α]

/-! ## Lines below other lines -/

section ReadLines

variable (number : Nat) (first second : List (List Char))

private theorem readLines_append :
    (readLines number (first ++ second) : Except (Fault α) (List (Change α))) = do
      let changes ← readLines number first
      let further ← readLines (number + first.length) second
      return changes ++ further := by
  induction first generalizing number with
  | nil =>
      rw [List.nil_append, readLines, ok_bind, List.length_nil, Nat.add_zero]
      cases (readLines number second : Except (Fault α) (List (Change α))) <;> rfl
  | cons line rest inductionHypothesis =>
      have below := inductionHypothesis (number + 1)
      rw [Nat.add_assoc, Nat.add_comm 1] at below
      rw [List.cons_append, readLines, readLines, List.length_cons, below]
      cases (readLine line : Except LineFault (Option (Change α))) with
      | error fault => rfl
      | ok change =>
          cases change with
          | none => rfl
          | some change =>
              dsimp only
              cases (readLines (number + 1) rest : Except (Fault α) (List (Change α))) with
              | error fault => rfl
              | ok changes =>
                  cases (readLines (number + (rest.length + 1)) second :
                    Except (Fault α) (List (Change α))) <;> rfl

/-- An empty line at the end says nothing. -/
theorem readLines_concat_nil :
    (readLines number (first ++ [[]]) : Except (Fault α) (List (Change α))) =
      readLines number first := by
  have nothing : (readLines (number + first.length) [[]] : Except (Fault α) (List (Change α))) =
      .ok [] := rfl
  rw [readLines_append, nothing]
  cases (readLines number first : Except (Fault α) (List (Change α))) with
  | error fault => rfl
  | ok changes => exact congrArg Except.ok (List.append_nil changes)

private theorem readLines_lineFeed (text : List Char) :
    (readLines number (Text.lines (text ++ ['\n'])) : Except (Fault α) (List (Change α))) =
      readLines number (Text.lines text) := by
  rcases Text.lines_lineFeed text with same | further
  · rw [same]
  · rw [further, readLines_concat_nil]

/-- The numbers of the lines are all that depends on where the count begins. -/
theorem readLines_add (above : Nat) (lines : List (List Char)) :
    (readLines (above + number) lines : Except (Fault α) (List (Change α))) =
      (readLines number lines).mapError (Fault.below above) := by
  induction lines generalizing number with
  | nil => rfl
  | cons line rest inductionHypothesis =>
      rw [readLines, readLines, Nat.add_assoc, inductionHypothesis]
      cases (readLine line : Except LineFault (Option (Change α))) with
      | error fault => rfl
      | ok change =>
          cases change with
          | none => rfl
          | some change =>
              dsimp only
              cases (readLines (number + 1) rest : Except (Fault α) (List (Change α))) <;> rfl

end ReadLines

/-! ## Texts below other texts -/

private theorem eq_of_checked {settings accepted : Settings α}
    (checked : settings.checked = .ok accepted) : accepted = settings := by
  unfold Settings.checked at checked
  split_ifs at checked
  cases checked
  rfl

/-- The bounds name no lines. -/
theorem mapError_checked (settings : Settings α) (above : Nat) :
    settings.checked.mapError (Fault.below above) = settings.checked := by
  unfold Settings.checked
  split_ifs <;> rfl

section Layers

variable {upper : String} {initial middle : Settings α}
  (accepted : ofText upper initial = .ok middle)
include accepted

/-- The changes of the lower text are made to the settings of the upper one, and the bounds of these
are no matter any more. -/
theorem ofText_below (lower : String) :
    ofText (upper ++ "\n" ++ lower) initial =
      (ofText lower middle).mapError
        (Fault.below (Text.lines (upper ++ "\n").toList).length) := by
  obtain ⟨changes, read, checked⟩ := bind_eq_ok_iff.mp accepted
  have ended : (upper ++ "\n").toList = upper.toList ++ ['\n'] := by simp
  have joined : (upper ++ "\n" ++ lower).toList = upper.toList ++ '\n' :: lower.toList := by simp
  rw [ended, ofText, ofText, ofChars, ofChars, joined, Text.lines_append_lineFeed,
    readLines_append, readLines_lineFeed, read, ok_bind, Nat.add_comm 1, readLines_add,
    eq_of_checked checked]
  cases (readLines 1 (Text.lines lower.toList) : Except (Fault α) (List (Change α))) with
  | error fault => rfl
  | ok further =>
      change ((changes ++ further).foldl apply initial).checked =
        ((further.foldl apply (changes.foldl apply initial)).checked).mapError _
      rw [mapError_checked, List.foldl_append]

/-- A text below another one is accepted just when it is accepted alone, of the settings that the
upper one makes, and makes the same settings. Otherwise both are refused, and a faulty line is the
same one with the lines of the upper text above it. -/
theorem ofText_lineFeed_append (lower : String) :
    (∀ settings, ofText (upper ++ "\n" ++ lower) initial = .ok settings ↔
      ofText lower middle = .ok settings) ∧
    ((∀ settings, ofText lower middle ≠ .ok settings) →
      Refused (ofText (upper ++ "\n" ++ lower) initial) ∧ Refused (ofText lower middle)) ∧
    ∀ number fault, ofText lower middle = .error (.settingsLine number fault) →
      ofText (upper ++ "\n" ++ lower) initial =
        .error (.settingsLine ((Text.lines (upper ++ "\n").toList).length + number) fault) := by
  rw [ofText_below accepted]
  rcases ofText_cases lower middle with ⟨fault, refused, refuses⟩ | ⟨merged, _, _, answered⟩
  · rw [refused]
    refine ⟨?_, fun _ => ⟨⟨_, rfl, ?_⟩, fault, rfl, refuses⟩, ?_⟩
    · intro settings
      constructor <;> rintro ⟨⟩
    · rw [Fault.refusesQuestion_below]
      exact refuses
    · rintro number wrong ⟨⟩
      rfl
  · rw [answered]
    refine ⟨fun settings => Iff.rfl, fun none => absurd rfl (none merged), ?_⟩
    rintro number wrong ⟨⟩

end Layers

open Exact in
/-- The upper text ends in half of a line end and the seam in the other half. The bounds of the
search are one in each text. -/
theorem standard_layers :
    ∃ middle merged : Settings (Exact gaussianTail),
      ofText "snr_search_high: 3 # above\r" standard = .ok middle ∧
      ofText ("snr_search_high: 3 # above\r" ++ "\n" ++ "snr_search_low=2") standard = .ok merged ∧
      merged.searchLow = finite 2 ∧ merged.searchHigh = finite 3 ∧
      ofText ("snr_search_high: 3 # above\r" ++ "\n" ++ "width=2")
          (standard : Settings (Exact gaussianTail)) =
        .error (.settingsLine 2 (.unknownSetting "width")) := by
  have two : (Scalar.ofNumeral (.finite false 2 0) : Exact gaussianTail) = finite 2 := by
    simp [Scalar.ofNumeral, Exact.ofNumeral]
  have three : (Scalar.ofNumeral (.finite false 3 0) : Exact gaussianTail) = finite 3 := by
    simp [Scalar.ofNumeral, Exact.ofNumeral]
  let middle : Settings (Exact gaussianTail) :=
    { standard with searchHigh := Scalar.ofNumeral (.finite false 3 0) }
  let merged : Settings (Exact gaussianTail) :=
    { middle with searchLow := Scalar.ofNumeral (.finite false 2 0) }
  have middlePermitted : Permitted middle := by
    constructor <;> simp only [middle, standard, three, ofScientific_eq, finite_lt_finite,
      finite_le_finite] <;> norm_num
  have mergedPermitted : Permitted merged := by
    constructor <;> simp only [merged, middle, standard, two, three, ofScientific_eq,
      finite_lt_finite, finite_le_finite] <;> norm_num
  have upper : ofText "snr_search_high: 3 # above\r" standard = .ok middle :=
    checked_of_permitted middlePermitted
  have lower : ofText "snr_search_low=2" middle = .ok merged :=
    checked_of_permitted mergedPermitted
  have unknown : ofText "width=2" middle =
      .error (.settingsLine 1 (.unknownSetting "width")) := rfl
  refine ⟨middle, merged, upper, ?_, two, three, ?_⟩
  · exact ((ofText_lineFeed_append upper "snr_search_low=2").1 merged).mpr lower
  · exact (ofText_lineFeed_append upper "width=2").2.2 1 _ unknown

end Settings

end WifiLink
