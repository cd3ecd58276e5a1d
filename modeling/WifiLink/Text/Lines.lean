/-!
Cutting a text into lines. A line ends at any of the line and paragraph ends of Unicode and at
three ASCII separators; a carriage return and a line feed side by side are one end. A text that
ends in a line end has no empty line after it.
-/

namespace WifiLink.Text

/-- The characters that end a line. -/
def isLineEnd (c : Char) : Bool :=
  let code := c.toNat
  (0x0A ≤ code && code ≤ 0x0D) || (0x1C ≤ code && code ≤ 0x1E) || code == 0x85 ||
    code == 0x2028 || code == 0x2029

/-- The lines of a text, the first of which has been read in part; `start` holds that part last
character first. -/
def linesAfter (start : List Char) : List Char → List (List Char)
  | [] => if start = [] then [] else [start.reverse]
  | '\r' :: '\n' :: rest => start.reverse :: linesAfter [] rest
  | c :: rest =>
      if isLineEnd c then start.reverse :: linesAfter [] rest else linesAfter (c :: start) rest

/-- The lines of a text without their ends. -/
def lines (text : List Char) : List (List Char) := linesAfter [] text

/-- A text with every carriage return, alone or before a line feed, read as a line feed. -/
def unifyLineEnds : List Char → List Char
  | [] => []
  | '\r' :: '\n' :: rest => '\n' :: unifyLineEnds rest
  | c :: rest => (if c = '\r' then '\n' else c) :: unifyLineEnds rest

end WifiLink.Text
