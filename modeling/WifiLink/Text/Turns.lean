/-!
Classes of characters as turns: the code points, in increasing order, at which a class starts or
stops. Below the first turn nothing is in the class.
-/

namespace WifiLink.Text

/-- A character is in a class when an odd number of its turns lies at or before the character. -/
def isWithin (turns : List Nat) (c : Char) : Bool :=
  (turns.takeWhile (· ≤ c.toNat)).length % 2 == 1

end WifiLink.Text
