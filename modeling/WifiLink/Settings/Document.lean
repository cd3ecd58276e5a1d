import WifiLink.Settings.Line

/-!
A whole settings text. Lines are read from the first to the last and the first faulty one is
reported by its number; then the changes are made in order, so that the last line for a setting
counts, and only the outcome is checked.
-/

namespace WifiLink.Settings

variable {α : Type} [Scalar α]

/-- Settings with one value changed. -/
def apply (settings : Settings α) : Change α → Settings α
  | .headerWidth value => { settings with headerWidth := value }
  | .searchLow value => { settings with searchLow := value }
  | .searchHigh value => { settings with searchHigh := value }
  | .searchPrecision value => { settings with searchPrecision := value }
  | .searchIterations value => { settings with searchIterations := value }

/-- The changes that lines make, the first of them having the given number. -/
def readLines (number : Nat) : List (List Char) → Except (Fault α) (List (Change α))
  | [] => .ok []
  | line :: rest =>
      match readLine line with
      | .error fault => .error (.settingsLine number fault)
      | .ok none => readLines (number + 1) rest
      | .ok (some change) => (readLines (number + 1) rest).map (change :: ·)

/-- The settings that the characters of a text make of given ones. -/
def ofChars (text : List Char) (initial : Settings α) : Except (Fault α) (Settings α) := do
  let changes ← readLines 1 (Text.lines text)
  (changes.foldl apply initial).checked

/-- The settings that a text makes of given ones. -/
def ofText (text : String) (initial : Settings α := standard) : Except (Fault α) (Settings α) :=
  ofChars text.toList initial

/-- The settings of a file of UTF-8 bytes, in which every kind of line end counts as one line
feed. -/
def ofBytes (bytes : List Nat) : Except (Fault α) (Settings α) :=
  match Text.decodeUtf8 bytes with
  | .error fault => .error (.settingsNotUtf8 fault)
  | .ok text => ofChars (Text.unifyLineEnds text.toList) standard

end WifiLink.Settings
