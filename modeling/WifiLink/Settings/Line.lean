import WifiLink.Settings
import WifiLink.Text.Lines

/-!
One line of a settings text. A number sign starts a comment; what is left is blank or sets one
setting: a key, a colon or an equals sign, and a value without blanks.
-/

namespace WifiLink.Settings

/-- A line up to its first number sign. -/
def withoutComment (line : List Char) : List Char := line.takeWhile (· ≠ '#')

def isKeyStart (c : Char) : Bool := c.isAlpha || c == '_'

def isKeyChar (c : Char) : Bool := c.isAlphanum || c == '_'

/-- Splits a line into its key and value: a key of ASCII letters, digits and underscores that
does not start with a digit, and a value that is not empty and has no blank inside. Blanks may
stand around both. -/
def assignment? (line : List Char) : Option (List Char × List Char) :=
  let body := line.dropWhile Text.isBlank
  let key := body.takeWhile isKeyChar
  match (body.dropWhile isKeyChar).dropWhile Text.isBlank with
  | [] => none
  | separator :: rest =>
      let value := Text.stripBlanks rest
      if (separator = ':' ∨ separator = '=') ∧ key.head?.any isKeyStart ∧ value ≠ [] ∧
          value.all (fun c => !Text.isBlank c) then
        some (key, value)
      else none

/-- The name of a setting. -/
inductive Key where
  | headerWidth
  | searchLow
  | searchHigh
  | searchPrecision
  | searchIterations
deriving DecidableEq, Repr

namespace Key

def all : List Key := [headerWidth, searchLow, searchHigh, searchPrecision, searchIterations]

/-- The key that sets a setting, in lower case. -/
def text : Key → String
  | headerWidth => "header_width_mhz"
  | searchLow => "snr_search_low"
  | searchHigh => "snr_search_high"
  | searchPrecision => "snr_search_precision"
  | searchIterations => "snr_search_max_iter"

def ofText? (written : String) : Option Key := all.find? (·.text == written)

theorem ofText?_text (key : Key) : ofText? key.text = some key := by cases key <;> rfl

end Key

/-- A new value of one setting. -/
inductive Change (α : Type) where
  | headerWidth (value : α)
  | searchLow (value : α)
  | searchHigh (value : α)
  | searchPrecision (value : α)
  | searchIterations (value : Int)
deriving Repr

variable {α : Type} [Scalar α]

/-- The change that a setting and the text of its value stand for, if the text is a number of
the right kind. -/
def change? (key : Key) (value : String) : Option (Change α) :=
  match key with
  | .headerWidth => (Numeral.ofText? value).map fun n => .headerWidth (Scalar.ofNumeral n)
  | .searchLow => (Numeral.ofText? value).map fun n => .searchLow (Scalar.ofNumeral n)
  | .searchHigh => (Numeral.ofText? value).map fun n => .searchHigh (Scalar.ofNumeral n)
  | .searchPrecision => (Numeral.ofText? value).map fun n => .searchPrecision (Scalar.ofNumeral n)
  | .searchIterations => (Numeral.integerOfText? value).map .searchIterations

/-- The change that a line makes, or nothing for a blank line or a comment. Keys are read in
lower case. -/
def readLine (line : List Char) : Except LineFault (Option (Change α)) :=
  let body := withoutComment line
  if body.all Text.isBlank then .ok none
  else
    match assignment? body with
    | none => .error (.malformed (String.ofList (Text.stripBlanks line)))
    | some (written, digits) =>
        let name := String.ofList (written.map Char.toLower)
        let value := String.ofList digits
        match Key.ofText? name with
        | none => .error (.unknownSetting name)
        | some key =>
            match change? key value with
            | none => .error (.badNumber name value)
            | some change => .ok (some change)

end WifiLink.Settings
