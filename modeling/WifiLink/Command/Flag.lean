import WifiLink.Decimal.Layout
import WifiLink.PpduField
import WifiLink.Text.Digit
import WifiLink.Text.Quoted

/-!
The options of the command line, and how a word of it is told apart: an option, maybe with a
value attached, or a plain word. A long option may be cut short as long as no other starts the
same way.
-/

namespace WifiLink.Command

inductive Flag where
  | help
  | mode
  | width
  | snrDecibels
  | bits
  | streams
  | guardInterval
  | field
  | payloadMode
  | table
  | sweep
  | snrRange
  | out
  | plot
  | config
  | verbose
deriving DecidableEq, Repr

namespace Flag

/-- Every option in the order of the manual. -/
def all : List Flag :=
  [ help, mode, width, snrDecibels, bits, streams, guardInterval, field, payloadMode, table, sweep,
    snrRange, out, plot, config, verbose ]

/-- An option as it is written in full. -/
def text : Flag → String
  | help => "--help"
  | mode => "--mode"
  | width => "--width"
  | snrDecibels => "--snr-db"
  | bits => "--nbits"
  | streams => "--nss"
  | guardInterval => "--gi"
  | field => "--field"
  | payloadMode => "--payload-mode"
  | table => "--table"
  | sweep => "--sweep"
  | snrRange => "--snr-range"
  | out => "--out"
  | plot => "--plot"
  | config => "--config"
  | verbose => "--verbose"

/-- An option as complaints name it, with its short form if it has one. -/
def label : Flag → String
  | help => "-h/--help"
  | flag => flag.text

/-- Whether an option is followed by a value. -/
def takesValue : Flag → Bool
  | help | table | verbose => false
  | _ => true

def ofText? (written : String) : Option Flag := all.find? (·.text == written)

def startingWith (start : String) : List Flag :=
  all.filter fun flag => start.toList.isPrefixOf flag.text.toList

end Flag

/-- Why a command line is not understood. -/
inductive UsageFault where
  | ambiguous (written : String) (candidates : List Flag)
  | valueMissing (flag : Flag)
  | valueIgnored (flag : Flag) (value : String)
  | notReal (flag : Flag) (value : String)
  | notInteger (flag : Flag) (value : String)
  | unknownField (value : String)
  | unrecognized (words : List String)
  | rangeMalformed
deriving DecidableEq, Repr

def UsageFault.message : UsageFault → String
  | .ambiguous written candidates =>
      "ambiguous option: " ++ written ++ " could match " ++
        ", ".intercalate (candidates.map Flag.text)
  | .valueMissing flag => "argument " ++ flag.label ++ ": expected one argument"
  | .valueIgnored flag value =>
      "argument " ++ flag.label ++ ": ignored explicit argument " ++ Text.quoted value
  | .notReal flag value =>
      "argument " ++ flag.label ++ ": invalid float value: " ++ Text.quoted value
  | .notInteger flag value =>
      "argument " ++ flag.label ++ ": invalid int value: " ++ Text.quoted value
  | .unknownField value =>
      "argument " ++ Flag.field.label ++ ": invalid choice: " ++ Text.quoted value ++
        " (choose from " ++
        ", ".intercalate (PpduField.all.map fun field => Text.quoted field.text) ++ ")"
  | .unrecognized words => "unrecognized arguments: " ++ " ".intercalate words
  | .rangeMalformed => "--snr-range must look like start:stop:step"

inductive Word where
  | option (flag : Flag) (attached : Option String)
  | unknownOption (written : String)
  | plain (written : String)
  | separator
deriving DecidableEq, Repr

def Word.written : Word → String
  | .option flag none => flag.text
  | .option flag (some value) => flag.text ++ "=" ++ value
  | .unknownOption written => written
  | .plain written => written
  | .separator => "--"

/-- Whether a word that starts with a minus sign is a negative number without exponent: digits,
with a point before the last of them at most. A line feed may follow. -/
def isNegativeNumber (word : List Char) : Bool :=
  let isDigit (c : Char) : Bool := (Text.decimalDigit? c).isSome
  match word with
  | '-' :: number =>
      let whole := number.takeWhile isDigit
      let rest := number.dropWhile isDigit
      let atEnd (tail : List Char) : Bool := tail == [] || tail == ['\n']
      (whole ≠ [] && atEnd rest) ||
        match rest with
        | '.' :: fraction => fraction.takeWhile isDigit ≠ [] && atEnd (fraction.dropWhile isDigit)
        | _ => false
  | _ => false

/-- Splits a word at its first equals sign. -/
def splitAttached (word : List Char) : String × Option String :=
  let name := word.takeWhile (· ≠ '=')
  (String.ofList name,
    if name.length < word.length then some (String.ofList (word.drop (name.length + 1))) else none)

/-- What is attached to the short form of the option for help. An equals sign next to it is no
part of the value, and further letters of the same option are taken off the front; what is left
is a value that nothing asks for. -/
def shortHelp : List Char → Option String
  | [] => none
  | ['='] => some ""
  | rest =>
      let value := if rest.head? = some '=' then rest.tail else rest
      match value.dropWhile (· == 'h') with
      | [] => none
      | left => some (String.ofList left)

/-- What two minus signs attached to an option stand for. Earlier argument parsers, those before
3.11.8 and 3.12.2, take them for an empty list of values, later ones for a value like any other. -/
inductive AttachedDashes where
  | emptyList
  | value
deriving DecidableEq, Repr

/-- The value that a text attached to an option stands for, unless it stands for an empty list. -/
def attachedValue (dashes : AttachedDashes) (attached : String) : Option String :=
  if attached = "--" ∧ dashes = .emptyList then none else some attached

def Word.ofText (word : String) : Except UsageFault Word :=
  match word.toList with
  | '-' :: 'h' :: rest => .ok (.option .help (shortHelp rest))
  | '-' :: second :: rest =>
      match Flag.ofText? word with
      | some flag => .ok (.option flag none)
      | none =>
          let (name, attached) := splitAttached ('-' :: second :: rest)
          let candidates :=
            match Flag.ofText? name with
            | some flag => [flag]
            | none => if second = '-' then Flag.startingWith name else []
          match candidates with
          | [flag] => .ok (.option flag attached)
          | [] =>
              if isNegativeNumber word.toList ∨ ' ' ∈ word.toList then .ok (.plain word)
              else .ok (.unknownOption word)
          | several => .error (.ambiguous word several)
  | _ => .ok (.plain word)

/-- Tells what the words of a command line are. After two minus signs alone every word is
plain. -/
def Word.ofTexts : List String → Except UsageFault (List Word)
  | [] => .ok []
  | word :: rest =>
      if word = "--" then .ok (.separator :: rest.map .plain)
      else do
        let first ← Word.ofText word
        let others ← Word.ofTexts rest
        return first :: others

end WifiLink.Command
