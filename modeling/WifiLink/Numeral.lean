import WifiLink.Text.Blank
import WifiLink.Text.Digit

/-!
Numbers as text spells them. A numeral keeps the decimal digits and the power of ten exactly;
what value it stands for is left to each kind of number.
-/

namespace WifiLink

/-- A spelled number: a sign with the value `digits * 10 ^ exponent`, a signed infinity, or the
word for no number at all. -/
inductive Numeral where
  | finite (negative : Bool) (digits : Nat) (exponent : Int)
  | infinite (negative : Bool)
  | notANumber
deriving DecidableEq, Repr

namespace Numeral

/-- Spaces a spelled number may stand between: the ASCII ones with a printed width or a line
effect, and every blank beyond ASCII. The four ASCII separators are blank elsewhere, not here. -/
def isPadding (c : Char) : Bool :=
  if c.toNat < 128 then c == ' ' || (9 ≤ c.toNat && c.toNat ≤ 13) else Text.isBlank c

/-- The text without the padding at its two ends. -/
def trim (text : List Char) : List Char :=
  ((text.dropWhile isPadding).reverse.dropWhile isPadding).reverse

def isDigit (c : Char) : Bool := '0' ≤ c && c ≤ '9'

/-- A decimal digit of any script becomes the ASCII digit of the same value. -/
def foldDigit (c : Char) : Char :=
  match Text.decimalDigit? c with
  | some value => Char.ofNat ('0'.toNat + value)
  | none => c

/-- Removes the underscores that group digits. One that does not stand between two digits
makes the text no number. -/
def ungroup? (afterDigit : Bool) : List Char → Option (List Char)
  | [] => some []
  | '_' :: next :: rest =>
      if afterDigit && isDigit next then (next :: ·) <$> ungroup? true rest else none
  | c :: rest => if c = '_' then none else (c :: ·) <$> ungroup? (isDigit c) rest

def digitsValue (digits : List Char) : Nat :=
  digits.foldl (fun value c => 10 * value + (c.toNat - '0'.toNat)) 0

/-- Splits a leading sign off; `true` means minus. -/
def splitSign : List Char → Bool × List Char
  | '-' :: rest => (true, rest)
  | '+' :: rest => (false, rest)
  | text => (false, text)

/-- A sign applied to a magnitude. -/
def signed (negative : Bool) (magnitude : Nat) : Int :=
  if negative then -(magnitude : Int) else magnitude

/-- The longest whole number that is read from text has this many digits. -/
def digitLimit : Nat := 4300

/-- An optional sign and digits alone. -/
def plainInteger? (text : List Char) : Option Int :=
  let (negative, digits) := splitSign text
  if digits ≠ [] ∧ digits.all isDigit then some (signed negative (digitsValue digits)) else none

/-- The part after the digits and the point: nothing, or a marked power of ten. -/
def powerOfTen? : List Char → Option Int
  | [] => some 0
  | mark :: rest => if mark = 'e' ∨ mark = 'E' then plainInteger? rest else none

/-- Unsigned digits with at most one point and a digit on at least one side of it, then the
power of ten. -/
def magnitude? (negative : Bool) (text : List Char) : Option Numeral :=
  let whole := text.takeWhile isDigit
  let afterWhole := text.dropWhile isDigit
  let (fraction, rest) :=
    match afterWhole with
    | '.' :: afterPoint => (afterPoint.takeWhile isDigit, afterPoint.dropWhile isDigit)
    | _ => ([], afterWhole)
  if whole = [] ∧ fraction = [] then none
  else
    (powerOfTen? rest).map fun power =>
      .finite negative (digitsValue (whole ++ fraction)) (power - fraction.length)

/-- Reads a spelled real number: padding, one sign, then digits or one of the words `inf`,
`infinity` and `nan` in any case. -/
def ofText? (text : String) : Option Numeral := do
  let plain ← ungroup? false ((trim text.toList).map foldDigit)
  let (negative, unsigned) := splitSign plain
  let word := String.ofList (unsigned.map Char.toLower)
  if word = "inf" ∨ word = "infinity" then return .infinite negative
  if word = "nan" then return .notANumber
  magnitude? negative unsigned

/-- Reads a spelled whole number of at most `digitLimit` digits. -/
def integerOfText? (text : String) : Option Int := do
  let plain ← ungroup? false ((trim text.toList).map foldDigit)
  if digitLimit < (plain.filter isDigit).length then none else plainInteger? plain

end Numeral

end WifiLink
