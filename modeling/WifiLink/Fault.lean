import WifiLink.Code.Rate
import WifiLink.Decimal.ByteSize
import WifiLink.Scalar
import WifiLink.Text.Utf8

/-!
Everything that keeps a question from having an answer, as causes. The words for each cause are
in `Fault.message`.
-/

namespace WifiLink

/-- What is wrong with a line of a settings text. -/
inductive LineFault where
  | malformed (line : String)
  | unknownSetting (key : String)
  | badNumber (key value : String)
deriving DecidableEq, Repr

/-- What a command can leave without a value, by the use that first misses it. -/
inductive Quantity where
  | width
  | widthInTitle
  | decibels
  | streams
  | guardInterval
  | sweepRange
deriving DecidableEq, Repr

/-- A cause of failure. -/
inductive Fault (α : Type) where
  | arithmetic (cause : ArithmeticFault)
  | invalidSnr (snr : α)
  | spreadNotPositive
  | rateNotPositive
  | unsupportedConstellation (size : Int)
  | binomialOutOfRange (k n : Int)
  | probabilityOutOfRange (probability : α)
  | distanceNotOdd (distance : Int)
  | distanceNotEven (distance : Int)
  | distanceNotPositive (distance : Int)
  | widthNotPositive
  | noSpatialStream
  | unsupportedWidth (width : α)
  | unknownMode (name : String)
  | unknownCodeRate (text : String)
  | unknownField (value : Literal)
  | noSpectrum (size : Int) (key : RateKey)
  | noModes
  | unknownStation (station : Int)
  | bitsNotInteger (bits : Literal)
  | bitsNegative (bits : Int)
  | targetOutOfRange (target : α)
  | targetUnmodeled (mode : String)
  | searchNotConverged (iterations : Int) (gap : α)
  | headerWidthNotPositive
  | searchBoundsDisordered
  | searchLimitsNotPositive
  | settingsLine (number : Nat) (fault : LineFault)
  | settingsNotUtf8 (fault : Text.Utf8Fault)
  | stepNotPositive
  | stopBelowStart
  | cellMissing
  | valueMissing (quantity : Quantity)

/-- A calculation's fault is a cause of failure. -/
instance {α : Type} : MonadLift (Except ArithmeticFault) (Except (Fault α)) where
  monadLift
    | .ok value => .ok value
    | .error cause => .error (.arithmetic cause)

def ArithmeticFault.message : ArithmeticFault → String
  | .integerTooLarge => "int too large to convert to float"
  | .powerTooLarge => "(34, 'Numerical result out of range')"
  | .zeroToNegativePower => "0.0 cannot be raised to a negative power"
  | .divisionByZero => "float division by zero"
  | .logarithmOfNonPositive => "math domain error"
  | .floorOfNotANumber => "cannot convert float NaN to integer"
  | .floorOfInfinity => "cannot convert float infinity to integer"
  | .tooManyCombinations => "min(n - k, k) must not exceed 9223372036854775807"
  | .countTooLarge => "Maximum allowed size exceeded"
  | .sizeTooLarge =>
      "array is too big; `arr.size * arr.dtype.itemsize` is larger than the maximum possible size."
  | .noRoom count =>
      "Unable to allocate " ++ Decimal.byteSize (8 * count) ++ " for an array with shape (" ++
        toString count ++ ",) and data type int64"
  | .countNotANumber => "arange: cannot compute length"
  | .boundNotFinite => "Axis limits cannot be NaN or Inf"

def LineFault.message : LineFault → String
  | .malformed line => "expected 'key: value', got " ++ Text.quoted line
  | .unknownSetting key => "unknown setting " ++ Text.quoted key
  | .badNumber key value => "bad number for " ++ key ++ ": " ++ Text.quoted value

/-- The words for what happens to an empty list of values where one value is used. -/
def Quantity.message : Quantity → String
  | .width => "'<=' not supported between instances of 'list' and 'int'"
  | .widthInTitle => "unsupported format string passed to list.__format__"
  | .decibels => "only 0-dimensional arrays can be converted to Python scalars"
  | .streams => "'<' not supported between instances of 'list' and 'int'"
  | .guardInterval => "can't multiply sequence by non-int of type 'float'"
  | .sweepRange => "'list' object has no attribute 'split'"

def Fault.message : Fault Float → String
  | .arithmetic cause => cause.message
  | .invalidSnr snr => "SNR must be a non-negative linear ratio, got " ++ Decimal.display snr
  | .spreadNotPositive => "signal spread must be positive"
  | .rateNotPositive => "PHY rate must be positive"
  | .unsupportedConstellation size => "unsupported QAM constellation size: " ++ toString size
  | .binomialOutOfRange k n =>
      "binomial needs 0 <= k <= n, got k=" ++ toString k ++ ", n=" ++ toString n
  | .probabilityOutOfRange probability =>
      "probability out of range: " ++ Decimal.display probability
  | .distanceNotOdd distance => "pd_odd needs an odd distance, got " ++ toString distance
  | .distanceNotEven distance => "pd_even needs an even distance, got " ++ toString distance
  | .distanceNotPositive distance => "distance must be positive, got " ++ toString distance
  | .widthNotPositive => "channel width must be positive"
  | .noSpatialStream => "number of spatial streams must be >= 1"
  | .unsupportedWidth width => "unsupported channel width: " ++ Decimal.display width ++ " MHz"
  | .unknownMode name => "unknown mode: " ++ name
  | .unknownCodeRate text => Text.quoted text ++ " is not a valid CodeRate"
  | .unknownField value => value.quoted ++ " is not a valid PpduField"
  | .noSpectrum size key =>
      "no distance spectrum entry for M=" ++ toString size ++ ", code rate " ++ key.quoted
  | .noModes => "at least one mode is required"
  | .unknownStation station =>
      "station " ++ toString station ++ " is not part of this MU transmission"
  | .bitsNotInteger bits => "nbits must be an integer, got " ++ bits.quoted
  | .bitsNegative bits => "nbits must be >= 0, got " ++ toString bits
  | .targetOutOfRange target => "target BER must be in (0, 1), got " ++ Decimal.display target
  | .targetUnmodeled mode => "mode " ++ mode ++ " is not modeled"
  | .searchNotConverged iterations gap =>
      "SNR search did not converge in " ++ toString iterations ++ " iterations (gap " ++
        Decimal.general 6 gap ++ ")"
  | .headerWidthNotPositive => "header_width_mhz must be positive"
  | .searchBoundsDisordered => "SNR search bounds must satisfy 0 < low < high"
  | .searchLimitsNotPositive => "SNR search precision and iteration cap must be positive"
  | .settingsLine number fault => "line " ++ toString number ++ ": " ++ fault.message
  | .settingsNotUtf8 fault => fault.message
  | .stepNotPositive => "step must be positive"
  | .stopBelowStart => "stop must be >= start"
  | .cellMissing => "list index out of range"
  | .valueMissing quantity => quantity.message

end WifiLink
