import WifiLink.Command.Location
import WifiLink.Fault
import WifiLink.Sweep.Curves
import WifiLink.Transmission

/-!
Files and folders: what was there before the command, and what the command made. A place as it is
written may make detours through other folders, so it is first followed name by name; every folder
on the way must be there.
-/

namespace WifiLink.Command

/-- What a file holds: bytes, a text or a figure. -/
inductive Content where
  | bytes (bytes : List Nat)
  | text (text : String)
  | figure (figure : Figure Float)

/-- What keeps a place from being used. -/
inductive StorageProblem where
  | missing
  | isFolder
  | exists
  | notInFolder
  | nameTooLong
  | nullCharacter
deriving DecidableEq, Repr

/-- Why a file or folder cannot be read or made. -/
inductive StorageFault where
  | unusable (place : Location) (problem : StorageProblem)
  | pictureFormat (suffix : String)
  | typesetterMissing
deriving DecidableEq, Repr

/-- The formats a figure can be saved in, by the suffix of the file. They are those of the plotting
library with its picture encoders, for which this list stands. -/
def pictureFormats : List String :=
  [ "avif", "eps", "gif", "jpeg", "jpg", "pdf", "pgf", "png", "ps", "raw", "rgba", "svg", "svgz",
    "tif", "tiff", "webp" ]

/-- The format for which the plotting library has texts measured by a typesetter, which no system
here has. -/
def typesetFormat : String := "pgf"

def StorageProblem.message (place : String) : StorageProblem → String
  | .missing => "[Errno 2] No such file or directory: " ++ Text.quoted place
  | .isFolder => "[Errno 21] Is a directory: " ++ Text.quoted place
  | .exists => "[Errno 17] File exists: " ++ Text.quoted place
  | .notInFolder => "[Errno 20] Not a directory: " ++ Text.quoted place
  | .nameTooLong => "[Errno 36] File name too long: " ++ Text.quoted place
  | .nullCharacter => "embedded null byte"

def StorageFault.message : StorageFault → String
  | .unusable place problem => problem.message place.text
  | .pictureFormat suffix =>
      "Format " ++ Text.quoted suffix ++ " is not supported (supported formats: " ++
        ", ".intercalate pictureFormats ++ ")"
  | .typesetterMissing =>
      "'xelatex' not found; install it or change rcParams['pgf.texsystem'] to an available " ++
        "TeX implementation"

/-- Files and folders, all at places without detours. -/
structure Storage where
  existingFiles : List (Location × Content) := []
  existingFolders : List Location := []
  madeFiles : List (Location × Content) := []
  madeFolders : List Location := []

namespace Storage

/-- The folders at the root of every system. -/
def systemFolders : List Location :=
  [ "bin", "boot", "dev", "etc", "home", "lib", "media", "mnt", "opt", "proc", "root", "run",
    "sbin", "srv", "sys", "tmp", "usr", "var" ].map fun name => ⟨"/", [name]⟩

/-- The file of every system that is empty and keeps nothing. -/
def nullDevice : Location := ⟨"/", ["dev", "null"]⟩

/-- A system whose running folder holds the given files. -/
def ofFiles (files : List (Location × Content)) : Storage where
  existingFiles := (nullDevice, .bytes []) :: files
  existingFolders := systemFolders

/-- What a file holds now, if it is there. -/
def content? (storage : Storage) (place : Location) : Option Content :=
  ((storage.madeFiles ++ storage.existingFiles).find? (·.1 == place)).map (·.2)

/-- Whether a place is a folder: a root, the running folder or one above it, a folder that was
there or was made, or one that a file is in. -/
def isFolder (storage : Storage) (place : Location) : Bool :=
  place.names.all (· == "..") || place ∈ storage.existingFolders ++ storage.madeFolders ||
    storage.existingFiles.any fun file => place ∈ file.1.ancestors

/-- The greatest number of bytes in a name. -/
def nameLimit : Nat := 255

/-- The greatest number of bytes in the text of a place. -/
def placeLimit : Nat := 4095

/-- Goes on from a folder to another one by its name. -/
def enter (storage : Storage) (folder : Location) (name : String) :
    Except StorageProblem Location :=
  let next := folder.step name
  if storage.isFolder next then .ok next
  else if nameLimit < name.utf8ByteSize then .error .nameTooLong
  else if (storage.content? next).isSome then .error .notInFolder
  else .error .missing

/-- Follows a place to where it lies; only its last name need not be there. -/
def locate (storage : Storage) (place : Location) : Except StorageProblem Location :=
  if '\x00' ∈ place.text.toList then .error .nullCharacter
  else if placeLimit < place.text.utf8ByteSize then .error .nameTooLong
  else
    match place.names.getLast? with
    | none => .ok place.start
    | some name => do
        let folder ← place.names.dropLast.foldlM storage.enter place.start
        if nameLimit < name.utf8ByteSize then .error .nameTooLong
        else return folder.step name

def read (storage : Storage) (place : Location) : Except StorageFault Content :=
  match storage.locate place with
  | .error problem => .error (.unusable place problem)
  | .ok found =>
      if storage.isFolder found then .error (.unusable place .isFolder)
      else
        match storage.content? found with
        | some content => .ok content
        | none => .error (.unusable place .missing)

/-- Makes a folder in one that is there. A folder that is there already will do. -/
def makeFolder (storage : Storage) (place : Location) : Except StorageProblem Storage := do
  let found ← storage.locate place
  if storage.isFolder found then return storage
  else if (storage.content? found).isSome then .error .exists
  else return { storage with madeFolders := storage.madeFolders ++ [found] }

/-- Makes a folder. If one on the way to it is missing, the folders that hold it are made
first. -/
def makeFolders (storage : Storage) (place : Location) : Except StorageFault Storage :=
  match storage.makeFolder place with
  | .ok made => .ok made
  | .error .missing =>
      if _ : place.names = [] then .error (.unusable place .missing)
      else do
        let above ← makeFolders storage place.folder
        (above.makeFolder place).mapError (.unusable place)
  | .error problem => .error (.unusable place problem)
termination_by place.names.length
decreasing_by
  have := List.length_pos_iff.2 ‹¬place.names = []›
  simp only [Location.folder, List.length_dropLast]
  omega

/-- Makes a file in a folder that is there, in the place of an earlier one. -/
def save (storage : Storage) (place : Location) (content : Content) :
    Except StorageFault Storage :=
  match storage.locate place with
  | .error problem => .error (.unusable place problem)
  | .ok found =>
      if storage.isFolder found then .error (.unusable place .isFolder)
      else .ok { storage with madeFiles := assign found content storage.madeFiles }

/-- The files of the running folder that were not there before. -/
def newFiles (storage : Storage) : List (Location × Content) :=
  storage.madeFiles.filter fun (place, _) =>
    place.isInside && !storage.existingFiles.any (·.1 == place)

end Storage

end WifiLink.Command
