import WifiLink.Decimal.Shortest

/-!
How the program writes real numbers: the shortest text that reads back, a text of a given number
of significant digits, and a text of a given number of places.
-/

namespace WifiLink.Decimal

/-- Digits with a point after the first and the exponent behind a mark, which has a sign and at
least two digits. Without a second digit there is no point. -/
def scientific (d : Digits) : String :=
  let fraction := d.digits.drop 1
  let mantissa := d.digits.take 1 ++ (if fraction = [] then [] else '.' :: fraction)
  let exponent := Nat.toDigits 10 d.exponent.natAbs
  String.ofList (mantissa ++ ['e', if d.exponent < 0 then '-' else '+'] ++
    (if exponent.length < 2 then ['0'] else []) ++ exponent)

/-- The digits before the point when no exponent is written. -/
def wholeDigits (d : Digits) : List Char :=
  if d.exponent < 0 then ['0']
  else d.digits.take (d.exponent.toNat + 1) ++
    List.replicate (d.exponent.toNat + 1 - d.digits.length) '0'

/-- The digits after the point when no exponent is written. -/
def fractionDigits (d : Digits) : List Char :=
  if d.exponent < 0 then List.replicate (d.exponent.natAbs - 1) '0' ++ d.digits
  else d.digits.drop (d.exponent.toNat + 1)

/-- Digits without an exponent; a value without a fraction has neither point nor zero after
it. -/
def positional (d : Digits) : String :=
  let fraction := fractionDigits d
  String.ofList (wholeDigits d ++ (if fraction = [] then [] else '.' :: fraction))

/-- A text with a minus sign in front when the number is negative. -/
def withSign (negative : Bool) (text : String) : String := if negative then "-" ++ text else text

/-- Writes the infinities and what is no number by their short names, and any other double by
the given function of its sign, significand and exponent. -/
def write (x : Float) (finite : Nat → Int → String) : String :=
  match Double.parts x with
  | .finite negative significand exponent => withSign negative (finite significand exponent)
  | .infinite negative => withSign negative "inf"
  | .notANumber => "nan"

/-- The shortest text that reads back as the same double, always with a point or an exponent.
An exponent is written from `10 ^ 16` on and below `10 ^ -4`. -/
def display (x : Float) : String :=
  write x fun significand exponent =>
    if significand = 0 then "0.0"
    else
      let d := shortest significand exponent
      if d.exponent < -4 ∨ 16 ≤ d.exponent then scientific d
      else if fractionDigits d = [] then positional d ++ ".0"
      else positional d

/-- A text of at most `count` significant digits without zeros at the end. An exponent is
written from `10 ^ count` on and below `10 ^ -4`. -/
def general (count : Nat) (x : Float) : String :=
  write x fun significand exponent =>
    if significand = 0 then "0"
    else
      let (numerator, denominator) := Double.quotient significand exponent
      let d := significant count numerator denominator
      if d.exponent < -4 ∨ (count : Int) ≤ d.exponent then scientific d.trim else positional d.trim

/-- A text with exactly `places` digits after the point. -/
def fixed (places : Nat) (x : Float) : String :=
  write x fun significand exponent =>
    let (numerator, denominator) := Double.quotient significand exponent
    let rounded := roundQuotient (numerator * Nat.pow 10 places) denominator
    let fraction := Nat.toDigits 10 (rounded % Nat.pow 10 places)
    toString (rounded / Nat.pow 10 places) ++
      (if places = 0 then ""
      else "." ++ String.ofList (List.replicate (places - fraction.length) '0' ++ fraction))

/-- A text of one digit before the point, `places` after it, and an exponent. -/
def exponential (places : Nat) (x : Float) : String :=
  write x fun significand exponent =>
    if significand = 0 then scientific ⟨List.replicate (places + 1) '0', 0⟩
    else
      let (numerator, denominator) := Double.quotient significand exponent
      scientific (significant (places + 1) numerator denominator)

end WifiLink.Decimal
