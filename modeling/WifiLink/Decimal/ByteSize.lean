import WifiLink.Decimal.Layout

/-!
Numbers of bytes in binary units, as a person reads them.
-/

namespace WifiLink.Decimal

/-- The units, each 1024 times the one before. -/
def byteUnits : List String := ["bytes", "KiB", "MiB", "GiB", "TiB", "PiB", "EiB"]

/-- A quotient to three digits, at most three of them before the point, which is always written. -/
def threeDigits (numerator denominator : Nat) : String :=
  let d := significant 3 numerator denominator
  String.ofList (wholeDigits d ++ '.' :: fractionDigits d)

/-- The greatest unit that a number of bytes reaches when it is rounded. -/
def byteUnit (bytes : Nat) : Nat :=
  let unit := bytes.log2 / 10
  if roundQuotient bytes (Nat.pow 1024 unit) = 1024 then unit + 1 else unit

/-- A number of bytes in its unit: whole bytes, else three digits, or four whole ones before the
next unit is reached. -/
def byteSize (bytes : Nat) : String :=
  let unit := byteUnit bytes
  let whole := roundQuotient bytes (Nat.pow 1024 unit)
  let number :=
    if unit = 0 then toString whole
    else if whole < 1000 then threeDigits bytes (Nat.pow 1024 unit)
    else toString whole ++ "."
  number ++ " " ++ byteUnits.getD unit ""

end WifiLink.Decimal
