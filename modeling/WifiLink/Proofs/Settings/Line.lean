import Mathlib
import WifiLink.Settings.Line

/-!
# One line of a settings text

What is left of a line without its comment is blank, or it has the parts of an assignment in one
way only, or it is malformed. An assignment is faulty when it names no setting or gives it a value
of the wrong kind.
-/

namespace WifiLink

/-! ## Cuts -/

section Cuts

variable {β : Type} {p : β → Bool} {left right : List β}

/-- A text is cut where a class of characters ends. -/
theorem takeWhile_append_of_stop
    (all : ∀ c ∈ left, p c) (stop : ∀ c ∈ right.head?, ¬p c) :
    (left ++ right).takeWhile p = left := by
  rw [List.takeWhile_append_of_pos all]
  cases right with
  | nil => exact List.append_nil left
  | cons c rest => rw [List.takeWhile_cons_of_neg (stop c rfl), List.append_nil]

theorem dropWhile_append_of_stop
    (all : ∀ c ∈ left, p c) (stop : ∀ c ∈ right.head?, ¬p c) :
    (left ++ right).dropWhile p = right := by
  rw [List.dropWhile_append_of_pos all]
  cases right with
  | nil => rfl
  | cons c rest => exact List.dropWhile_cons_of_neg (stop c rfl)

/-- There is one such cut. -/
theorem append_eq_append_of_stop {left' right' : List β}
    (all : ∀ c ∈ left, p c) (stop : ∀ c ∈ right.head?, ¬p c)
    (all' : ∀ c ∈ left', p c) (stop' : ∀ c ∈ right'.head?, ¬p c)
    (equal : left ++ right = left' ++ right') :
    left = left' ∧ right = right' := by
  constructor
  · rw [← takeWhile_append_of_stop all stop, equal, takeWhile_append_of_stop all' stop']
  · rw [← dropWhile_append_of_stop all stop, equal, dropWhile_append_of_stop all' stop']

theorem stripBlanks_append {leading solid trailing : List Char}
    (before : ∀ c ∈ leading, Text.isBlank c) (nonempty : solid ≠ [])
    (inside : ∀ c ∈ solid, ¬Text.isBlank c) (after : ∀ c ∈ trailing, Text.isBlank c) :
    Text.stripBlanks (leading ++ (solid ++ trailing)) = solid := by
  have front : ∀ c ∈ (solid ++ trailing).head?, ¬Text.isBlank c := by
    cases solid with
    | nil => exact absurd rfl nonempty
    | cons first rest =>
        intro c isFirst
        cases isFirst
        exact inside first List.mem_cons_self
  have back : ∀ c ∈ solid.reverse.head?, ¬Text.isBlank c := by
    intro c isLast
    exact inside c (List.mem_reverse.mp (List.mem_of_mem_head? isLast))
  have after' : ∀ c ∈ trailing.reverse, Text.isBlank c := fun c member =>
    after c (List.mem_reverse.mp member)
  rw [Text.stripBlanks, dropWhile_append_of_stop before front, List.reverse_append,
    dropWhile_append_of_stop after' back, List.reverse_reverse]

end Cuts

namespace Settings

/-! ## Assignments -/

/-- A letter or underscore of ASCII, then letters, digits and underscores. -/
def IsIdentifier (word : List Char) : Prop :=
  ∃ first rest, word = first :: rest ∧ (first.isAlpha ∨ first = '_') ∧
    ∀ c ∈ rest, c.isAlphanum ∨ c = '_'

/-- The parts of a line that sets something: a key, a colon or an equals sign and a value, with
blanks before, between and after them. -/
structure Assignment where
  leading : List Char
  key : List Char
  beforeMark : List Char
  mark : Char
  afterMark : List Char
  value : List Char
  trailing : List Char
  leading_blank : ∀ c ∈ leading, Text.isBlank c
  key_identifier : IsIdentifier key
  beforeMark_blank : ∀ c ∈ beforeMark, Text.isBlank c
  mark_separates : mark = ':' ∨ mark = '='
  afterMark_blank : ∀ c ∈ afterMark, Text.isBlank c
  value_nonempty : value ≠ []
  value_solid : ∀ c ∈ value, ¬Text.isBlank c
  trailing_blank : ∀ c ∈ trailing, Text.isBlank c

theorem isKeyStart_iff {c : Char} : isKeyStart c ↔ c.isAlpha ∨ c = '_' := by
  simp [isKeyStart]

theorem isKeyChar_iff {c : Char} : isKeyChar c ↔ c.isAlphanum ∨ c = '_' := by
  simp [isKeyChar]

theorem isKeyChar_of_isKeyStart {c : Char} (start : isKeyStart c) : isKeyChar c := by
  rw [isKeyStart_iff] at start
  rw [isKeyChar_iff, Char.isAlphanum]
  grind

/-- Key characters make an identifier if the first may start one. -/
theorem isIdentifier_iff {word : List Char} :
    IsIdentifier word ↔ word.head?.any isKeyStart ∧ ∀ c ∈ word, isKeyChar c := by
  constructor
  · rintro ⟨first, rest, rfl, starts, others⟩
    rw [← isKeyStart_iff] at starts
    refine ⟨starts, List.forall_mem_cons.mpr ⟨isKeyChar_of_isKeyStart starts, fun c member => ?_⟩⟩
    exact isKeyChar_iff.mpr (others c member)
  · rintro ⟨starts, inKey⟩
    cases word with
    | nil => cases starts
    | cons first rest =>
        exact ⟨first, rest, rfl, isKeyStart_iff.mp starts, fun c member =>
          isKeyChar_iff.mp (inKey c (List.mem_cons_of_mem first member))⟩

theorem not_isBlank_of_isKeyChar {c : Char} (inKey : isKeyChar c) : ¬Text.isBlank c := by
  have bounds : 0x30 ≤ c.toNat ∧ c.toNat ≤ 0x7A := by
    simp only [isKeyChar, Char.isAlphanum, Char.isAlpha, Char.isUpper, Char.isLower, Char.isDigit,
      Bool.or_eq_true, Bool.and_eq_true, decide_eq_true_eq, beq_iff_eq, UInt32.le_iff_toNat_le,
      ge_iff_le] at inKey
    rcases inKey with letterOrDigit | rfl
    · simp only [Char.toNat_val, Char.reduceToNat] at letterOrDigit
      omega
    · decide
  simp only [Text.isBlank]
  grind

namespace Assignment

/-- The line that the parts make up. -/
def text (parts : Assignment) : List Char :=
  parts.leading ++ (parts.key ++ (parts.beforeMark ++
    parts.mark :: (parts.afterMark ++ (parts.value ++ parts.trailing))))

variable (parts : Assignment)

section Cuts

/-- What follows the key. -/
def afterKey : List Char :=
  parts.beforeMark ++ parts.mark :: (parts.afterMark ++ (parts.value ++ parts.trailing))

theorem key_stops : ∀ c ∈ (parts.key ++ parts.afterKey).head?, ¬Text.isBlank c := by
  have inKey := (isIdentifier_iff.mp parts.key_identifier).2
  obtain ⟨first, rest, key, _⟩ := parts.key_identifier
  rw [key] at inKey ⊢
  intro c isFirst
  cases isFirst
  exact not_isBlank_of_isKeyChar (inKey first List.mem_cons_self)

theorem mark_not_blank : ¬Text.isBlank parts.mark := by
  rcases parts.mark_separates with mark | mark <;>
  · rw [mark]
    decide

theorem mark_not_isKeyChar : ¬isKeyChar parts.mark := by
  rcases parts.mark_separates with mark | mark <;>
  · rw [mark]
    decide

theorem key_isKeyChar : ∀ c ∈ parts.key, isKeyChar c :=
  (isIdentifier_iff.mp parts.key_identifier).2

theorem afterKey_stops : ∀ c ∈ parts.afterKey.head?, ¬isKeyChar c := by
  intro c isFirst inKey
  have blanks := parts.beforeMark_blank
  rw [afterKey] at isFirst
  cases before : parts.beforeMark with
  | nil =>
      rw [before] at isFirst
      cases isFirst
      exact parts.mark_not_isKeyChar inKey
  | cons blank rest =>
      rw [before] at isFirst blanks
      cases isFirst
      exact not_isBlank_of_isKeyChar inKey (blanks c List.mem_cons_self)

theorem value_stops : ∀ c ∈ (parts.value ++ parts.trailing).head?, ¬Text.isBlank c := by
  have solid := parts.value_solid
  cases value : parts.value with
  | nil => exact absurd value parts.value_nonempty
  | cons first rest =>
      rw [value] at solid
      intro c isFirst
      cases isFirst
      exact solid first List.mem_cons_self

theorem trailing_stops : ∀ c ∈ parts.trailing.head?, ¬(!Text.isBlank c) := by
  intro c isFirst
  rw [parts.trailing_blank c (List.mem_of_mem_head? isFirst)]
  exact Bool.false_ne_true

end Cuts

/-- A line has such parts in one way only. -/
theorem text_injective : Function.Injective text := by
  intro parts other equal
  obtain ⟨leading, afterLeading⟩ := append_eq_append_of_stop parts.leading_blank parts.key_stops
    other.leading_blank other.key_stops equal
  obtain ⟨key, afterKey⟩ := append_eq_append_of_stop parts.key_isKeyChar parts.afterKey_stops
    other.key_isKeyChar other.afterKey_stops afterLeading
  obtain ⟨beforeMark, fromMark⟩ := append_eq_append_of_stop parts.beforeMark_blank
    (by rintro c ⟨⟩; exact parts.mark_not_blank) other.beforeMark_blank
    (by rintro c ⟨⟩; exact other.mark_not_blank) afterKey
  obtain ⟨mark, pastMark⟩ := List.cons.inj fromMark
  obtain ⟨afterMark, fromValue⟩ := append_eq_append_of_stop parts.afterMark_blank
    parts.value_stops other.afterMark_blank other.value_stops pastMark
  obtain ⟨value, trailing⟩ := append_eq_append_of_stop
    (by simpa using parts.value_solid) parts.trailing_stops
    (by simpa using other.value_solid) other.trailing_stops fromValue
  cases parts
  cases other
  congr

/-- The reader finds the parts that a line has. -/
theorem assignment?_text : assignment? parts.text = some (parts.key, parts.value) := by
  have body : parts.text.dropWhile Text.isBlank = parts.key ++ parts.afterKey :=
    dropWhile_append_of_stop parts.leading_blank parts.key_stops
  have key : (parts.key ++ parts.afterKey).takeWhile isKeyChar = parts.key :=
    takeWhile_append_of_stop parts.key_isKeyChar parts.afterKey_stops
  have pastKey : (parts.key ++ parts.afterKey).dropWhile isKeyChar = parts.afterKey :=
    dropWhile_append_of_stop parts.key_isKeyChar parts.afterKey_stops
  have fromMark : parts.afterKey.dropWhile Text.isBlank =
      parts.mark :: (parts.afterMark ++ (parts.value ++ parts.trailing)) :=
    dropWhile_append_of_stop parts.beforeMark_blank (by rintro c ⟨⟩; exact parts.mark_not_blank)
  have value : Text.stripBlanks (parts.afterMark ++ (parts.value ++ parts.trailing)) =
      parts.value :=
    stripBlanks_append parts.afterMark_blank parts.value_nonempty parts.value_solid
      parts.trailing_blank
  have starts : parts.key.head?.any isKeyStart := (isIdentifier_iff.mp parts.key_identifier).1
  have solid : parts.value.all fun c => !Text.isBlank c := by
    simpa using parts.value_solid
  simp only [assignment?, body, key, pastKey, fromMark, value]
  exact if_pos ⟨parts.mark_separates, starts, parts.value_nonempty, solid⟩

theorem stripBlanks_append_trailing (text : List Char) :
    Text.stripBlanks text ++
        ((text.dropWhile Text.isBlank).reverse.takeWhile Text.isBlank).reverse =
      text.dropWhile Text.isBlank := by
  rw [Text.stripBlanks, ← List.reverse_append, List.takeWhile_append_dropWhile,
    List.reverse_reverse]

/-- The reader finds only parts that a line has. -/
theorem exists_of_assignment? {line key value : List Char}
    (found : assignment? line = some (key, value)) :
    ∃ parts : Assignment, parts.text = line ∧ parts.key = key ∧ parts.value = value := by
  unfold assignment? at found
  set body := line.dropWhile Text.isBlank with body_eq
  cases pastKey : (body.dropWhile isKeyChar).dropWhile Text.isBlank with
  | nil =>
      simp only [pastKey] at found
      cases found
  | cons mark rest =>
      simp only [pastKey] at found
      split_ifs at found with wellFormed
      obtain ⟨separates, starts, nonempty, solid⟩ := wellFormed
      cases found
      let parts : Assignment :=
        { leading := line.takeWhile Text.isBlank
          key := body.takeWhile isKeyChar
          beforeMark := (body.dropWhile isKeyChar).takeWhile Text.isBlank
          mark := mark
          afterMark := rest.takeWhile Text.isBlank
          value := Text.stripBlanks rest
          trailing := ((rest.dropWhile Text.isBlank).reverse.takeWhile Text.isBlank).reverse
          leading_blank := fun c => List.mem_takeWhile_imp
          key_identifier := isIdentifier_iff.mpr ⟨starts, fun c => List.mem_takeWhile_imp⟩
          beforeMark_blank := fun c => List.mem_takeWhile_imp
          mark_separates := separates
          afterMark_blank := fun c => List.mem_takeWhile_imp
          value_nonempty := nonempty
          value_solid := by simpa using solid
          trailing_blank := fun c member => List.mem_takeWhile_imp (List.mem_reverse.mp member) }
      refine ⟨parts, ?_, rfl, rfl⟩
      simp only [text, parts, stripBlanks_append_trailing, List.takeWhile_append_dropWhile,
        ← pastKey, body_eq]

theorem assignment?_eq_none_iff {line : List Char} :
    assignment? line = none ↔ ∀ parts : Assignment, parts.text ≠ line := by
  constructor
  · rintro absent parts rfl
    rw [parts.assignment?_text] at absent
    cases absent
  · intro absent
    cases found : assignment? line with
    | none => rfl
    | some assigned =>
        obtain ⟨parts, equal, _⟩ := exists_of_assignment? found
        exact absurd equal (absent parts)

end Assignment

/-! ## What a line does -/

variable {α : Type} [Scalar α]

/-- How each setting is spelled in lower case. -/
inductive Key.IsSpelled : Key → String → Prop
  | headerWidth : IsSpelled .headerWidth "header_width_mhz"
  | searchLow : IsSpelled .searchLow "snr_search_low"
  | searchHigh : IsSpelled .searchHigh "snr_search_high"
  | searchPrecision : IsSpelled .searchPrecision "snr_search_precision"
  | searchIterations : IsSpelled .searchIterations "snr_search_max_iter"

/-- The text is a number of the kind that the setting takes. -/
def Key.Accepts : Key → String → Prop
  | .searchIterations, value => (Numeral.integerOfText? value).isSome
  | _, value => (Numeral.ofText? value).isSome

/-- The setting that a change is of. -/
def Change.key : Change α → Key
  | .headerWidth _ => .headerWidth
  | .searchLow _ => .searchLow
  | .searchHigh _ => .searchHigh
  | .searchPrecision _ => .searchPrecision
  | .searchIterations _ => .searchIterations

/-- The new value is the number that the text spells: a whole number of steps, and for the other
settings the number nearest to the spelled one. -/
inductive Change.IsReadFrom : Change α → String → Prop
  | headerWidth {value : String} {numeral : Numeral} :
      Numeral.ofText? value = some numeral →
        IsReadFrom (.headerWidth (Scalar.ofNumeral numeral)) value
  | searchLow {value : String} {numeral : Numeral} :
      Numeral.ofText? value = some numeral →
        IsReadFrom (.searchLow (Scalar.ofNumeral numeral)) value
  | searchHigh {value : String} {numeral : Numeral} :
      Numeral.ofText? value = some numeral →
        IsReadFrom (.searchHigh (Scalar.ofNumeral numeral)) value
  | searchPrecision {value : String} {numeral : Numeral} :
      Numeral.ofText? value = some numeral →
        IsReadFrom (.searchPrecision (Scalar.ofNumeral numeral)) value
  | searchIterations {value : String} {count : Int} :
      Numeral.integerOfText? value = some count → IsReadFrom (.searchIterations count) value

theorem change?_eq_none_iff {key : Key} {value : String} :
    (change? key value : Option (Change α)) = none ↔ ¬key.Accepts value := by
  cases key <;> simp [change?, Key.Accepts]

theorem change?_eq_some_iff {key : Key} {value : String} {change : Change α} :
    change? key value = some change ↔ change.key = key ∧ change.IsReadFrom value := by
  constructor
  · intro changes
    cases key <;>
    · obtain ⟨number, spelled, rfl⟩ := Option.map_eq_some_iff.mp changes
      exact ⟨rfl, by constructor; exact spelled⟩
  · rintro ⟨rfl, read⟩
    cases read <;>
    · next spelled => exact Option.map_eq_some_iff.mpr ⟨_, spelled, rfl⟩

theorem Key.isSpelled_iff {key : Key} {written : String} :
    key.IsSpelled written ↔ key.text = written := by
  constructor
  · rintro ⟨⟩ <;> rfl
  · rintro rfl
    cases key <;> constructor

theorem Key.ofText?_eq_none_iff {written : String} :
    Key.ofText? written = none ↔ ∀ key : Key, ¬key.IsSpelled written := by
  simp only [Key.isSpelled_iff]
  constructor
  · rintro absent key rfl
    rw [Key.ofText?_text] at absent
    cases absent
  · intro absent
    apply List.find?_eq_none.mpr
    intro key _ equal
    exact absent key (beq_iff_eq.mp equal)

/-- The key as it is looked up. -/
def Assignment.name (parts : Assignment) : String :=
  String.ofList (parts.key.map Char.toLower)

/-- There is nothing but blanks before the first number sign. -/
def IsBlankLine (line : List Char) : Prop :=
  ∀ c ∈ line.takeWhile (· ≠ '#'), Text.isBlank c

/-- What is wrong with a line, up to its first number sign. -/
inductive Faulty (line : List Char) : LineFault → Prop
  | malformed :
      ¬IsBlankLine line → (∀ parts : Assignment, parts.text ≠ line.takeWhile (· ≠ '#')) →
        Faulty line (.malformed (String.ofList (Text.stripBlanks line)))
  | unknownSetting (parts : Assignment) :
      parts.text = line.takeWhile (· ≠ '#') → (∀ key : Key, ¬key.IsSpelled parts.name) →
        Faulty line (.unknownSetting parts.name)
  | badNumber (parts : Assignment) (key : Key) :
      parts.text = line.takeWhile (· ≠ '#') → key.IsSpelled parts.name →
        ¬key.Accepts (String.ofList parts.value) →
          Faulty line (.badNumber parts.name (String.ofList parts.value))

/-- The change that a line makes: the line, up to its first number sign, spells the setting and the
new value. -/
def Sets (line : List Char) (change : Change α) : Prop :=
  ∃ parts : Assignment, parts.text = line.takeWhile (· ≠ '#') ∧
    change.key.IsSpelled parts.name ∧ change.IsReadFrom (String.ofList parts.value)

section ReadLine

variable {line : List Char}

theorem readLine_of_blank (blank : IsBlankLine line) :
    (readLine line : Except LineFault (Option (Change α))) = .ok none :=
  if_pos (List.all_eq_true.mpr blank)

theorem not_isBlankLine_of_parts {parts : Assignment}
    (equal : parts.text = line.takeWhile (· ≠ '#')) : ¬IsBlankLine line := by
  intro blank
  apply parts.mark_not_blank
  apply blank
  rw [← equal]
  simp [Assignment.text]

theorem readLine_of_parts {parts : Assignment} (equal : parts.text = line.takeWhile (· ≠ '#')) :
    (readLine line : Except LineFault (Option (Change α))) =
      match Key.ofText? parts.name with
      | none => .error (.unknownSetting parts.name)
      | some key =>
          match change? key (String.ofList parts.value) with
          | none => .error (.badNumber parts.name (String.ofList parts.value))
          | some change => .ok (some change) := by
  have solid : ¬(withoutComment line).all Text.isBlank := fun blank =>
    not_isBlankLine_of_parts equal (List.all_eq_true.mp blank)
  rw [readLine, if_neg solid, withoutComment, ← equal, parts.assignment?_text]
  rfl

theorem readLine_of_faulty {fault : LineFault} (faulty : Faulty line fault) :
    (readLine line : Except LineFault (Option (Change α))) = .error fault := by
  cases faulty with
  | malformed solid unparted =>
      have notBlank : ¬(withoutComment line).all Text.isBlank := fun blank =>
        solid (List.all_eq_true.mp blank)
      rw [readLine, if_neg notBlank, withoutComment,
        Assignment.assignment?_eq_none_iff.mpr unparted]
  | unknownSetting parts equal unknown =>
      rw [readLine_of_parts equal, Key.ofText?_eq_none_iff.mpr unknown]
  | badNumber parts key equal named refused =>
      rw [readLine_of_parts equal, ← Key.isSpelled_iff.mp named, Key.ofText?_text]
      dsimp only
      rw [change?_eq_none_iff.mpr refused]

theorem readLine_of_sets {change : Change α} (sets : Sets line change) :
    readLine line = .ok (some change) := by
  obtain ⟨parts, equal, named, read⟩ := sets
  rw [readLine_of_parts equal, ← Key.isSpelled_iff.mp named, Key.ofText?_text]
  dsimp only
  rw [change?_eq_some_iff.mpr ⟨rfl, read⟩]

/-- A line is blank, faulty or sets something. -/
theorem line_cases (line : List Char) :
    IsBlankLine line ∨ (∃ fault, Faulty line fault) ∨ ∃ change : Change α, Sets line change := by
  by_cases blank : IsBlankLine line
  · exact Or.inl blank
  by_cases unparted : ∀ parts : Assignment, parts.text ≠ line.takeWhile (· ≠ '#')
  · exact Or.inr (Or.inl ⟨_, .malformed blank unparted⟩)
  obtain ⟨parts, equal⟩ := not_forall_not.mp unparted
  by_cases unknown : ∀ key : Key, ¬key.IsSpelled parts.name
  · exact Or.inr (Or.inl ⟨_, .unknownSetting parts equal unknown⟩)
  obtain ⟨key, named⟩ := not_forall_not.mp unknown
  cases changes : (change? key (String.ofList parts.value) : Option (Change α)) with
  | none => exact Or.inr (Or.inl
      ⟨_, .badNumber parts key equal named (change?_eq_none_iff.mp changes)⟩)
  | some change =>
      obtain ⟨rfl, read⟩ := change?_eq_some_iff.mp changes
      exact Or.inr (Or.inr ⟨change, parts, equal, named, read⟩)

theorem not_sets_of_blank (blank : IsBlankLine line) (change : Change α) : ¬Sets line change := by
  rintro ⟨parts, equal, _⟩
  exact not_isBlankLine_of_parts equal blank

theorem sets_unique {change other : Change α} (first : Sets line change)
    (second : Sets line other) : change = other := by
  have reading := readLine_of_sets first
  rw [readLine_of_sets second] at reading
  cases reading
  rfl

end ReadLine

end Settings

end WifiLink
