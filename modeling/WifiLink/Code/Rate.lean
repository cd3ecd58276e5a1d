import WifiLink.Literal

/-!
Code rates: the share of the transmitted bits that carry information.
-/

namespace WifiLink

/-- A code rate of the convolutional code, or none for a mode without one. -/
inductive CodeRate where
  | undefined
  | half
  | twoThirds
  | threeQuarters
  | fiveSixths
deriving DecidableEq, Repr

namespace CodeRate

/-- Every code rate, the undefined one first and the others by size. -/
def all : List CodeRate := [undefined, half, twoThirds, threeQuarters, fiveSixths]

def name : CodeRate → String
  | undefined => "UNDEFINED"
  | half => "RATE_1_2"
  | twoThirds => "RATE_2_3"
  | threeQuarters => "RATE_3_4"
  | fiveSixths => "RATE_5_6"

def text : CodeRate → String
  | undefined => "undefined"
  | half => "1/2"
  | twoThirds => "2/3"
  | threeQuarters => "3/4"
  | fiveSixths => "5/6"

def ofText? (written : String) : Option CodeRate := all.find? (·.text == written)

theorem ofText?_text (rate : CodeRate) : ofText? rate.text = some rate := by cases rate <;> rfl

/-- Numerator and denominator; a mode without a code loses nothing to it. -/
def ratio : CodeRate → Nat × Nat
  | undefined => (1, 1)
  | half => (1, 2)
  | twoThirds => (2, 3)
  | threeQuarters => (3, 4)
  | fiveSixths => (5, 6)

def quoted (rate : CodeRate) : String :=
  "<CodeRate." ++ rate.name ++ ": " ++ Text.quoted rate.text ++ ">"

end CodeRate

/-- What a distance spectrum is looked up by beside the constellation: a code rate, or a value
that is none and finds nothing. -/
inductive RateKey where
  | rate (value : CodeRate)
  | other (value : Literal)

def RateKey.quoted : RateKey → String
  | .rate value => CodeRate.quoted value
  | .other value => Literal.quoted value

end WifiLink
