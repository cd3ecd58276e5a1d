import WifiLink.Command.Flag
import WifiLink.Command.Storage
import WifiLink.Text.Columns
import WifiLink.Trace

/-!
What a command has done so far: the text it printed, its log, and the files it made. A step of a
command adds to this state; a failure ends the command and leaves what was done.
-/

namespace WifiLink.Command

/-- The state of a command. -/
structure Session where
  storage : Storage := {}
  printed : String := ""
  log : String := ""

/-- Why a command fails. -/
inductive Failure where
  | usage (fault : UsageFault)
  | fault (fault : Fault Float)
  | storage (fault : StorageFault)

/-- A step of a command. -/
abbrev Action := ExceptT Failure (StateM Session)

/-- A calculation as a step. -/
def calculate {β : Type} (answer : Except (Fault Float) β) : Action β :=
  match answer with
  | .ok value => pure value
  | .error fault => throw (.fault fault)

/-- The reading of an argument as a step. -/
def understand {β : Type} (answer : Except UsageFault β) : Action β :=
  match answer with
  | .ok value => pure value
  | .error fault => throw (.usage fault)

/-- The reading of a file as a step. -/
def readFile (place : Location) : Action Content := do
  match (← get).storage.read place with
  | .ok content => pure content
  | .error fault => throw (.storage fault)

/-- A change of files and folders as a step. -/
def store (change : Storage → Except StorageFault Storage) : Action Unit := do
  let session ← get
  match change session.storage with
  | .ok storage => set { session with storage }
  | .error fault => throw (.storage fault)

def printLines (lines : List String) : Action Unit :=
  modify fun session => { session with printed := session.printed ++ Text.unlines lines }

def logEvents (events : List TraceEvent) : Action Unit :=
  modify fun session =>
    { session with log := session.log ++ String.join (events.map TraceEvent.line) }

end WifiLink.Command
