import WifiLink.Command.Flag
import WifiLink.Command.Location
import WifiLink.Double.Arithmetic
import WifiLink.Literal

/-!
What a command line asks for. Options are taken in order, a later one replacing an earlier one of
its kind; what belongs to none is complained about at the end. With an earlier argument parser an
option can be given an empty list of values. Where that means the same as not giving the option, it
is left out here; where a value is needed, it is missing until the command comes to use it.
-/

namespace WifiLink.Command

/-- The options in force. -/
structure Options where
  mode : String := "OfdmRate6Mbps"
  width : Option Float := some 20.0
  snrDecibels : Option Float := some 10.0
  bits : Literal := .integer 1000
  streams : Option Int := some 1
  guardInterval : Option Int := some 800
  field : Option PpduField := some .data
  payloadMode : String := ""
  table : Bool := false
  sweep : String := ""
  snrRange : Option String := some "-5:40:1"
  out : Option Location := none
  plot : Option Location := none
  config : Option Location := none
  verbose : Bool := false

/-- What the command is to do. -/
inductive Request where
  | help
  | run (options : Options)

def realValue (flag : Flag) (value : String) : Except UsageFault Float :=
  match Numeral.ofText? value with
  | some numeral => .ok (Scalar.ofNumeral numeral)
  | none => .error (.notReal flag value)

def integerValue (flag : Flag) (value : String) : Except UsageFault Int :=
  match Numeral.integerOfText? value with
  | some number => .ok number
  | none => .error (.notInteger flag value)

def fieldValue (value : String) : Except UsageFault PpduField :=
  match PpduField.ofText? value with
  | some field => .ok field
  | none => .error (.unknownField value)

namespace Options

/-- Sets an option that takes a value. -/
def set (options : Options) (flag : Flag) (value : String) : Except UsageFault Options :=
  match flag with
  | .mode => .ok { options with mode := value }
  | .width => return { options with width := some (← realValue flag value) }
  | .snrDecibels => return { options with snrDecibels := some (← realValue flag value) }
  | .bits => return { options with bits := .integer (← integerValue flag value) }
  | .streams => return { options with streams := some (← integerValue flag value) }
  | .guardInterval => return { options with guardInterval := some (← integerValue flag value) }
  | .field => return { options with field := some (← fieldValue value) }
  | .payloadMode => .ok { options with payloadMode := value }
  | .sweep => .ok { options with sweep := value }
  | .snrRange => .ok { options with snrRange := some value }
  | .out => .ok { options with out := some (Location.ofText value) }
  | .plot => .ok { options with plot := some (Location.ofText value) }
  | .config => .ok { options with config := some (Location.ofText value) }
  | .help | .table | .verbose => .ok options

/-- Gives an option that takes a value an empty list of them. A mode is named by how the list is
shown, which no mode is called. -/
def setEmpty (options : Options) (flag : Flag) : Options :=
  match flag with
  | .mode => { options with mode := (Literal.list []).quoted }
  | .width => { options with width := none }
  | .snrDecibels => { options with snrDecibels := none }
  | .bits => { options with bits := .list [] }
  | .streams => { options with streams := none }
  | .guardInterval => { options with guardInterval := none }
  | .field => { options with field := none }
  | .payloadMode => { options with payloadMode := "" }
  | .sweep => { options with sweep := "" }
  | .snrRange => { options with snrRange := none }
  | .out => { options with out := none }
  | .plot => { options with plot := none }
  | .config => { options with config := none }
  | .help | .table | .verbose => options

/-- Sets an option by what is attached to it. -/
def setAttached (options : Options) (dashes : AttachedDashes) (flag : Flag) (attached : String) :
    Except UsageFault Options :=
  match attachedValue dashes attached with
  | some value => options.set flag value
  | none => .ok (options.setEmpty flag)

/-- Sets an option that takes no value. -/
def turnOn (options : Options) (flag : Flag) : Options :=
  match flag with
  | .table => { options with table := true }
  | .verbose => { options with verbose := true }
  | _ => options

end Options

/-- Takes words in order. An option that waits for its value gets the next word if that is a
plain one; `left` holds the words that belonged to no option, last first. -/
def takeWords (dashes : AttachedDashes) (waiting : Option Flag) (options : Options)
    (left : List String) : List Word → Except UsageFault Request
  | [] =>
      match waiting with
      | some flag => .error (.valueMissing flag)
      | none => if left = [] then .ok (.run options) else .error (.unrecognized left.reverse)
  | word :: rest =>
      match waiting, word with
      | some flag, .plain value => do takeWords dashes none (← options.set flag value) left rest
      | some flag, _ => .error (.valueMissing flag)
      | none, .option flag (some attached) =>
          if flag.takesValue then do
            takeWords dashes none (← options.setAttached dashes flag attached) left rest
          else .error (.valueIgnored flag attached)
      | none, .option flag none =>
          if flag.takesValue then takeWords dashes (some flag) options left rest
          else if flag = .help then .ok .help
          else takeWords dashes none (options.turnOn flag) left rest
      | none, other => takeWords dashes none options (other.written :: left) rest

/-- What a command line asks for, with an earlier argument parser unless a later one is named. -/
def Request.ofWords (arguments : List String) (dashes : AttachedDashes := .emptyList) :
    Except UsageFault Request := do
  let words ← Word.ofTexts arguments
  takeWords dashes none {} [] words

end WifiLink.Command
