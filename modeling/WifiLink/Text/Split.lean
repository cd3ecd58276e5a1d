/-!
Cutting a text at a separator.
-/

namespace WifiLink.Text

/-- The parts of a text between separators; there is one more of them than separators. -/
def splitAt (separator : Char) : List Char → List (List Char)
  | [] => [[]]
  | c :: rest =>
      match splitAt separator rest with
      | [] => [[c]]
      | first :: others => if c = separator then [] :: first :: others else (c :: first) :: others

/-- The parts of a text between separators. -/
def split (separator : Char) (text : String) : List String :=
  (splitAt separator text.toList).map String.ofList

end WifiLink.Text
