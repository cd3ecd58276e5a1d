import WifiLink.Command.Run
import WifiLink.Picture.Plot

/-!
The command line program: it looks at the places that the options name, runs the command, and
carries out what the command did.
-/

namespace WifiLink.Command

def contentOf (place : Location) : IO Content := do
  return .bytes ((← IO.FS.readBinFile place.text).toList.map UInt8.toNat)

/-- Looks at a place and adds what is there to what is known. Only a file that the command reads
is read. -/
def lookAt (wanted : List Location) (storage : Storage) (place : Location) : IO Storage := do
  try
    if ← (← IO.FS.realPath place.text).isDir then
      return { storage with existingFolders := place :: storage.existingFolders }
    let content ← if place ∈ wanted then contentOf place else pure (.bytes [])
    return { storage with existingFiles := (place, content) :: storage.existingFiles }
  catch _ => return storage

/-- A place and the folders on the way to it, without detours. -/
def onTheWay (place : Location) : List Location :=
  (place.ancestors ++ [place]).map fun above => above.names.foldl Location.step above.start

/-- What is there already at the places that the options name and on the way to them. -/
def surroundings (options : Options) : IO Storage :=
  let wanted := options.config.toList.flatMap onTheWay
  let written := (options.out.toList ++ options.plot.toList).flatMap onTheWay
  (wanted ++ written).eraseDups.foldlM (lookAt wanted) {}

/-- The state a command line starts from. -/
def start (arguments : List String) : IO Session :=
  match Request.ofWords arguments with
  | .ok (.run options) => return { storage := ← surroundings options }
  | _ => return {}

def fileBytes : Content → ByteArray
  | .bytes bytes => ⟨(bytes.map Nat.toUInt8).toArray⟩
  | .text text => text.toUTF8
  | .figure figure => Picture.ofFigure figure

def carryOut (session : Session) : IO Unit := do
  for place in session.storage.madeFolders do
    IO.FS.createDirAll place.text
  for (place, content) in session.storage.madeFiles do
    IO.FS.writeBinFile place.text (fileBytes content)
  (← IO.getStdout).putStr session.printed
  (← IO.getStderr).putStr session.log

def Failure.line : Failure → String
  | .usage cause => cause.line
  | .fault cause => "error: " ++ cause.message ++ "\n"
  | .storage cause => "error: " ++ cause.message ++ "\n"

/-- The exit code of a failure: two for a command line that is not understood, else one. -/
def Failure.exitCode : Failure → UInt32
  | .usage _ => 2
  | _ => 1

end WifiLink.Command

open WifiLink.Command in
def main (arguments : List String) : IO UInt32 := do
  let (ending, session) := outcome arguments (← start arguments)
  carryOut session
  match ending with
  | .ok () => return 0
  | .error failure => do
      (← IO.getStderr).putStr failure.line
      return failure.exitCode
