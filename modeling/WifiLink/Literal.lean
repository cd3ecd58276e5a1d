import WifiLink.Decimal.Layout
import WifiLink.Text.Quoted

/-!
Values whose kind is known only when they are looked at: a chunk length before it is checked, a
code rate that is none, a cell of a printed table.
-/

namespace WifiLink

/-- A value of any kind. -/
inductive Literal where
  | none
  | boolean (value : Bool)
  | integer (value : Int)
  | real (value : Float)
  | text (value : String)
  | list (items : List Literal)
  | record (entries : List (String × Literal))
deriving Inhabited

namespace Literal

mutual

/-- A value as it is shown inside a message, texts in quotes. -/
def quoted : Literal → String
  | .none => "None"
  | .boolean value => if value then "True" else "False"
  | .integer value => toString value
  | .real value => Decimal.display value
  | .text value => Text.quoted value
  | .list items => "[" ++ ", ".intercalate (quotedItems items) ++ "]"
  | .record entries => "\x7b" ++ ", ".intercalate (quotedEntries entries) ++ "\x7d"

def quotedItems : List Literal → List String
  | [] => []
  | item :: rest => quoted item :: quotedItems rest

/-- The entries of a record, each a quoted key and its value. -/
def quotedEntries : List (String × Literal) → List String
  | [] => []
  | (key, value) :: rest => (Text.quoted key ++ ": " ++ quoted value) :: quotedEntries rest

end

/-- A value as it is printed by itself: a text as it stands, all else as inside a message. -/
def display : Literal → String
  | .text value => value
  | value => quoted value

end Literal

end WifiLink
