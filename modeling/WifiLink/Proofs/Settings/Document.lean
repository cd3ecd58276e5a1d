import WifiLink.Proofs.Outcome
import WifiLink.Proofs.Settings.Line
import WifiLink.Proofs.Text.Lines
import WifiLink.Settings.Document

/-!
# Settings texts

The first faulty line of a text is reported by its number among all lines. Without one, each
setting is what the last line for it says, and the bounds are looked at once, when all lines have
been read.
-/

namespace WifiLink.Settings

variable {α : Type}

/-! ## Merging -/

/-- One setting, as the change to it would be. -/
def entry (settings : Settings α) : Key → Change α
  | .headerWidth => .headerWidth settings.headerWidth
  | .searchLow => .searchLow settings.searchLow
  | .searchHigh => .searchHigh settings.searchHigh
  | .searchPrecision => .searchPrecision settings.searchPrecision
  | .searchIterations => .searchIterations settings.searchIterations

/-- A change replaces its own setting and leaves the others. -/
theorem entry_apply (settings : Settings α) (change : Change α) (key : Key) :
    (settings.apply change).entry key =
      if change.key = key then change else settings.entry key := by
  cases change <;> cases key <;> rfl

variable [Scalar α]

/-- The change is made by a line after which no line is for the same setting. -/
def SetsLast (lines : List (List Char)) (change : Change α) : Prop :=
  ∃ before line after, lines = before ++ line :: after ∧ Sets line change ∧
    ∀ later ∈ after, ∀ other : Change α, Sets later other → other.key ≠ change.key

/-- Each setting is as the last line for it says, or as it was when there is no line for it. -/
def Merges (lines : List (List Char)) (initial merged : Settings α) : Prop :=
  ∀ key, SetsLast lines (merged.entry key) ∨
    ((∀ line ∈ lines, ∀ change : Change α, Sets line change → change.key ≠ key) ∧
      merged.entry key = initial.entry key)

section Merging

variable {line : List Char} {lines : List (List Char)} {initial merged : Settings α}

private theorem merges_nil (settings : Settings α) : Merges [] settings settings :=
  fun _ => Or.inr ⟨fun _ member => absurd member List.not_mem_nil, rfl⟩

theorem SetsLast.cons {change : Change α} (last : SetsLast lines change) (line : List Char) :
    SetsLast (line :: lines) change := by
  obtain ⟨before, maker, after, equal, sets, unmade⟩ := last
  exact ⟨line :: before, maker, after, congrArg (line :: ·) equal, sets, unmade⟩

private theorem Merges.cons_blank (merges : Merges lines initial merged)
    (blank : IsBlankLine line) : Merges (line :: lines) initial merged := by
  intro key
  rcases merges key with last | ⟨untouched, kept⟩
  · exact Or.inl (last.cons line)
  · refine Or.inr ⟨?_, kept⟩
    intro other member change sets
    rcases List.mem_cons.mp member with rfl | later
    · exact absurd sets (not_sets_of_blank blank change)
    · exact untouched other later change sets

private theorem Merges.cons_sets {change : Change α}
    (merges : Merges lines (initial.apply change) merged) (sets : Sets line change) :
    Merges (line :: lines) initial merged := by
  intro key
  rcases merges key with last | ⟨untouched, kept⟩
  · exact Or.inl (last.cons line)
  · rw [entry_apply] at kept
    by_cases own : change.key = key
    · rw [if_pos own] at kept
      rw [kept]
      refine Or.inl ⟨[], line, lines, rfl, sets, ?_⟩
      rw [own]
      exact untouched
    · rw [if_neg own] at kept
      refine Or.inr ⟨?_, kept⟩
      intro other member another setsAnother
      rcases List.mem_cons.mp member with rfl | later
      · rw [← sets_unique sets setsAnother]
        exact own
      · exact untouched other later another setsAnother

end Merging

/-! ## Reading -/

section ReadLines

variable {lines : List (List Char)}

/-- A faulty line is reported whatever stands below it. -/
theorem readLines_of_faulty
    {before after : List (List Char)} {line : List Char} {fault : LineFault}
    (sound : ∀ earlier ∈ before, ∀ other, ¬Faulty earlier other) (faulty : Faulty line fault)
    (number : ℕ) :
    (readLines number (before ++ line :: after) : Except (Fault α) (List (Change α))) =
      .error (.settingsLine (number + before.length) fault) := by
  induction before generalizing number with
  | nil =>
      rw [List.nil_append, readLines, readLine_of_faulty faulty]
      rfl
  | cons first rest inductionHypothesis =>
      have below := inductionHypothesis
        (fun earlier member => sound earlier (List.mem_cons_of_mem first member)) (number + 1)
      have place : number + 1 + rest.length = number + (first :: rest).length := by
        rw [List.length_cons, Nat.add_right_comm, Nat.add_assoc]
      rw [place] at below
      rcases @line_cases α _ first with blank | ⟨fault, faulty⟩ | ⟨change, sets⟩
      · rw [List.cons_append, readLines, readLine_of_blank blank]
        exact below
      · exact absurd faulty (sound first List.mem_cons_self fault)
      · rw [List.cons_append, readLines, readLine_of_sets sets]
        dsimp only
        rw [below]
        rfl

/-- Sound lines merge into the settings. -/
theorem readLines_of_sound
    (sound : ∀ line ∈ lines, ∀ fault, ¬Faulty line fault) (number : ℕ) (initial : Settings α) :
    ∃ changes : List (Change α), readLines number lines = .ok changes ∧
      Merges lines initial (changes.foldl apply initial) := by
  induction lines generalizing number initial with
  | nil => exact ⟨[], rfl, merges_nil initial⟩
  | cons line rest inductionHypothesis =>
      have soundRest : ∀ later ∈ rest, ∀ fault, ¬Faulty later fault := fun later member =>
        sound later (List.mem_cons_of_mem line member)
      rcases @line_cases α _ line with blank | ⟨fault, faulty⟩ | ⟨change, sets⟩
      · obtain ⟨changes, read, merges⟩ := inductionHypothesis soundRest (number + 1) initial
        refine ⟨changes, ?_, merges.cons_blank blank⟩
        rw [readLines, readLine_of_blank blank]
        exact read
      · exact absurd faulty (sound line List.mem_cons_self fault)
      · obtain ⟨changes, read, merges⟩ :=
          inductionHypothesis soundRest (number + 1) (initial.apply change)
        refine ⟨change :: changes, ?_, merges.cons_sets sets⟩
        rw [readLines, readLine_of_sets sets]
        dsimp only
        rw [read]
        rfl

/-- Where a line is faulty, one is the first. -/
theorem exists_first_faulty
    (faulty : ∃ line ∈ lines, ∃ fault, Faulty line fault) :
    ∃ before line after fault, lines = before ++ line :: after ∧
      (∀ earlier ∈ before, ∀ other, ¬Faulty earlier other) ∧ Faulty line fault := by
  induction lines with
  | nil =>
      obtain ⟨_, member, _⟩ := faulty
      exact absurd member List.not_mem_nil
  | cons first rest inductionHypothesis =>
      by_cases faultyFirst : ∃ fault, Faulty first fault
      · obtain ⟨fault, faultyFirst⟩ := faultyFirst
        exact ⟨[], first, rest, fault, rfl, fun _ member => absurd member List.not_mem_nil,
          faultyFirst⟩
      · obtain ⟨line, member, faultyLine⟩ := faulty
        have later : line ∈ rest := by
          rcases List.mem_cons.mp member with rfl | later
          · exact absurd faultyLine faultyFirst
          · exact later
        obtain ⟨before, found, after, fault, equal, sound, faultyFound⟩ :=
          inductionHypothesis ⟨line, later, faultyLine⟩
        refine ⟨first :: before, found, after, fault, congrArg (first :: ·) equal, ?_, faultyFound⟩
        intro earlier memberEarlier other faultyEarlier
        rcases List.mem_cons.mp memberEarlier with rfl | below
        · exact faultyFirst ⟨other, faultyEarlier⟩
        · exact sound earlier below other faultyEarlier

end ReadLines

/-! ## Bounds -/

/-- No bound turns the settings down. -/
structure Permitted (settings : Settings α) : Prop where
  headerWidth : ¬settings.headerWidth ≤ 0.0
  bounds : 0.0 < settings.searchLow ∧ settings.searchLow < settings.searchHigh
  precision : ¬settings.searchPrecision ≤ 0.0
  iterations : 1 ≤ settings.searchIterations

theorem checked_of_permitted {settings : Settings α} (permitted : Permitted settings) :
    settings.checked = .ok settings := by
  have limits : ¬(settings.searchPrecision ≤ 0.0 ∨ settings.searchIterations < 1) := by
    rintro (coarse | none)
    · exact permitted.precision coarse
    · exact absurd permitted.iterations (not_le.mpr none)
  rw [checked, if_neg permitted.headerWidth, if_neg (not_not.mpr permitted.bounds), if_neg limits]

theorem refused_of_not_permitted {settings : Settings α} (unpermitted : ¬Permitted settings) :
    Refused settings.checked := by
  by_cases narrow : settings.headerWidth ≤ 0.0
  · rw [checked, if_pos narrow]
    exact refused_error rfl
  by_cases bounds : 0.0 < settings.searchLow ∧ settings.searchLow < settings.searchHigh
  · have limits : settings.searchPrecision ≤ 0.0 ∨ settings.searchIterations < 1 := by
      by_contra within
      rw [not_or, not_lt] at within
      exact unpermitted ⟨narrow, bounds, within.1, within.2⟩
    rw [checked, if_neg narrow, if_neg (not_not.mpr bounds), if_pos limits]
    exact refused_error rfl
  · rw [checked, if_neg narrow, if_pos bounds]
    exact refused_error rfl

/-- A text is refused, or its sound lines are merged into permitted settings. -/
theorem ofText_cases (text : String) (initial : Settings α) :
    Refused (ofText text initial) ∨
      ∃ merged, Merges (Text.lines text.toList) initial merged ∧ Permitted merged ∧
        ofText text initial = .ok merged := by
  by_cases faulty : ∃ line ∈ Text.lines text.toList, ∃ fault, Faulty line fault
  · obtain ⟨before, line, after, fault, equal, sound, faulty⟩ := exists_first_faulty faulty
    rw [ofText, ofChars, equal, readLines_of_faulty sound faulty]
    exact .inl (refused_error rfl)
  · have sound : ∀ line ∈ Text.lines text.toList, ∀ fault, ¬Faulty line fault :=
      fun line member fault wrong => faulty ⟨line, member, fault, wrong⟩
    obtain ⟨changes, read, merges⟩ := readLines_of_sound sound 1 initial
    rw [ofText, ofChars, read, ok_bind]
    by_cases permitted : Permitted (changes.foldl apply initial)
    · exact .inr ⟨_, merges, permitted, checked_of_permitted permitted⟩
    · exact .inl (refused_of_not_permitted permitted)

/-- The language of settings texts. A text is cut into lines; what is left of a line without its
comment is blank or has the parts of an assignment, in one way only, or is malformed. The first
faulty line is reported by its number among all lines. Without a faulty line each setting is as the
last line for it says, or as it was, and only then the bounds are looked at. -/
theorem ofText_outcome (text : String) (initial : Settings α) :
    Function.Injective Assignment.text ∧
    ∃ lines, Text.CutIntoLines text.toList lines ∧
      ((∃ line ∈ lines, ∃ fault, Faulty line fault) →
        ∃ before line after fault, lines = before ++ line :: after ∧
          (∀ earlier ∈ before, ∀ other, ¬Faulty earlier other) ∧ Faulty line fault ∧
            ofText text initial = .error (.settingsLine (before.length + 1) fault) ∧
              Refused (ofText text initial)) ∧
      ((∀ line ∈ lines, ∀ fault, ¬Faulty line fault) →
        ∃ merged, Merges lines initial merged ∧
          (Permitted merged → ofText text initial = .ok merged) ∧
          (¬Permitted merged → Refused (ofText text initial))) := by
  refine ⟨Assignment.text_injective, Text.lines text.toList, Text.cut_iff.mpr rfl, ?_, ?_⟩
  · intro faulty
    obtain ⟨before, line, after, fault, equal, sound, faultyLine⟩ := exists_first_faulty faulty
    have reported : ofText text initial = .error (.settingsLine (before.length + 1) fault) := by
      rw [ofText, ofChars, equal, readLines_of_faulty sound faultyLine, Nat.add_comm]
      rfl
    refine ⟨before, line, after, fault, equal, sound, faultyLine, reported, ?_⟩
    rw [reported]
    exact refused_error rfl
  · intro sound
    obtain ⟨changes, read, merges⟩ := readLines_of_sound sound 1 initial
    refine ⟨changes.foldl apply initial, merges, ?_, ?_⟩
    · intro permitted
      rw [ofText, ofChars, read, ok_bind]
      exact checked_of_permitted permitted
    · intro unpermitted
      rw [ofText, ofChars, read, ok_bind]
      exact refused_of_not_permitted unpermitted

example (initial : Settings α) :
    ofText "\n# five\nwidth: 3" initial = .error (.settingsLine 3 (.unknownSetting "width")) := by
  rfl

example (initial : Settings α) :
    ofText "snr_search_high: 3 # above\nSNR_SEARCH_LOW = 4\u2028snr_search_low=2" initial =
      { initial with
        searchLow := Scalar.ofNumeral (.finite false 2 0)
        searchHigh := Scalar.ofNumeral (.finite false 3 0) : Settings α }.checked := by
  rfl

end WifiLink.Settings
