import WifiLink.Text.Split

/-!
Places of files: the names from the top folder down to the file. Empty names and single points
say nothing and are left out.
-/

namespace WifiLink.Command

/-- A place. It starts at a root, of one slash or of exactly two, or in the folder the command
runs in. -/
structure Location where
  root : String
  names : List String
deriving DecidableEq, Repr

namespace Location

/-- The root a text starts at. -/
def rootOf (text : List Char) : String :=
  match (text.takeWhile (· == '/')).length with
  | 0 => ""
  | 2 => "//"
  | _ => "/"

def ofText (text : String) : Location where
  root := rootOf text.toList
  names := (Text.split '/' text).filter fun name => name != "" && name != "."

def text (place : Location) : String :=
  if place.root = "" ∧ place.names = [] then "." else place.root ++ "/".intercalate place.names

/-- The folder that holds a place. A root or the running folder holds itself. -/
def folder (place : Location) : Location := { place with names := place.names.dropLast }

/-- The place that a name leads to from a folder. Two points lead to the folder that holds it; a
root is held by itself, and above the running folder there is always another one. -/
def step (folder : Location) (name : String) : Location :=
  if name ≠ ".." then { folder with names := folder.names ++ [name] }
  else if folder.names.all (· == "..") then
    if folder.root = "" then { folder with names := folder.names ++ [name] } else folder
  else { folder with names := folder.names.dropLast }

/-- Where a place begins: at the one root, or in the running folder. -/
def start (place : Location) : Location := ⟨if place.root = "" then "" else "/", []⟩

/-- Whether a place without detours lies in the running folder. -/
def isInside (place : Location) : Bool := place.root == "" && place.names.head? != some ".."

/-- The folders on the way to a place, from the top down, without the place itself. -/
def ancestors (place : Location) : List Location :=
  (List.range place.names.length).map fun count => { place with names := place.names.take count }

/-- The text after the last point of the last name, points at its start not counting. -/
def suffix (place : Location) : String :=
  let name := ((place.names.getLast?.getD "").toList.dropWhile (· == '.')).reverse
  if '.' ∈ name then String.ofList (name.takeWhile (· ≠ '.')).reverse else ""

/-- The place with a suffix in place of the points at the end of its text. -/
def withSuffix (place : Location) (suffix : String) : Location :=
  let stem := (place.text.toList.reverse.dropWhile (· == '.')).reverse
  ofText (String.ofList (stem ++ '.' :: suffix.toList))

end Location

end WifiLink.Command
