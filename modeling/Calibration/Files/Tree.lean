/-
# File trees

The files that a host can see: directories, texts, files that are no text, and module images. Every operation
walks down from the top; a name in the middle of a path must be a directory.
-/

import Calibration.Files.Path
import Calibration.Text.Utf8

namespace Calibration

/-- What a file holds: a text, bytes that are no text, or the image of a plugin module. -/
inductive FileContent where
  | text (s : String)
  | bytes (bs : List UInt8)
  | image (name : String)
deriving DecidableEq, Repr

/-- A directory or a file. -/
inductive FileNode where
  | directory
  | file (content : FileContent)
deriving DecidableEq, Repr

/-- The nodes below the top directory, by the names that lead to them. -/
structure Files where
  nodes : List (List String × FileNode) := []
deriving DecidableEq, Repr

namespace Files

/-- The node at some names; the top is a directory. -/
def node? (fs : Files) (parts : List String) : Option FileNode :=
  if parts = [] then some .directory else (fs.nodes.find? (·.1 = parts)).map (·.2)

/-- The files with a node put at some names. -/
def put (fs : Files) (parts : List String) (node : FileNode) : Files :=
  if fs.nodes.any (·.1 = parts) then
    { nodes := fs.nodes.map fun entry => if entry.1 = parts then (parts, node) else entry }
  else { nodes := fs.nodes ++ [(parts, node)] }

/-- The node with a name in the directory at some names, if there is one. -/
def child (fs : Files) (done : List String) (name : String) : Except FileError (Option FileNode) :=
  if Path.nameLimit < name.utf8ByteSize then .error .nameTooLong else .ok (fs.node? (done ++ [name]))

/-- Walks down; `done` leads to a directory, and the last name may be missing. -/
def locate (fs : Files) (done : List String) : List String → Except FileError (Option FileNode)
  | [] => .ok (fs.node? done)
  | [name] => fs.child done name
  | name :: rest =>
    match fs.child done name with
    | .error e => .error e
    | .ok none => .error .notFound
    | .ok (some (.file _)) => .error .notDirectory
    | .ok (some .directory) => locate fs (done ++ [name]) rest

/-- The node at a path, if there is one. -/
def lookup (fs : Files) (p : Path) : Except FileError (Option FileNode) := do
  p.check
  match ← fs.locate [] p.names with
  | some (.file content) => if p.directoryOnly then .error .notDirectory else .ok (some (.file content))
  | other => .ok other

/-- Something stands at the path. -/
def has (fs : Files) (p : Path) : Bool :=
  match fs.lookup p with
  | .ok (some _) => true
  | _ => false

/-- A directory stands at the path. -/
def hasDirectory (fs : Files) (path : String) : Bool :=
  match fs.lookup (.ofText path) with
  | .ok (some .directory) => true
  | _ => false

/-- The text of the file at a path. -/
def readText (fs : Files) (path : String) : Except FileError String := do
  match ← fs.lookup (.ofText path) with
  | none => .error .notFound
  | some .directory => .error .isDirectory
  | some (.file (.text s)) => .ok s
  | some (.file _) => .error .invalidText

/-- What the file at a path shows: its text, with marks for bytes that are no text. -/
def show? (fs : Files) (path : String) : Option String :=
  match fs.lookup (.ofText path) with
  | .ok (some (.file (.text s))) => some s
  | .ok (some (.file (.bytes bs))) => some (String.ofList (Text.shown bs))
  | _ => none

/-- The module image in the file at a path. -/
def readImage? (fs : Files) (path : String) : Option String :=
  match fs.lookup (.ofText path) with
  | .ok (some (.file (.image name))) => some name
  | _ => none

/-- The directory that a file is written into must be there. -/
def checkParent (fs : Files) (p : Path) : Except FileError Unit := do
  match ← fs.locate [] p.names.dropLast with
  | none => .error .notFound
  | some (.file _) => .error .notDirectory
  | some .directory => .ok ()

/-- The files with a file written. A path that can only be a directory is refused, whatever stands there. -/
def write (fs : Files) (p : Path) (content : FileContent) : Except FileError Files := do
  p.check
  fs.checkParent p
  if p.directoryOnly then .error .isDirectory
  match ← fs.lookup p with
  | some .directory => .error .isDirectory
  | _ => .ok (fs.put p.names (.file content))

/-- Makes the missing directories on the way down, up to the first that cannot be made. -/
def makeDirectories (fs : Files) (done : List String) : List String → Except FileError Unit × Files
  | [] => (.ok (), fs)
  | name :: rest =>
    match fs.child done name with
    | .error e => (.error e, fs)
    | .ok none => makeDirectories (fs.put (done ++ [name]) .directory) (done ++ [name]) rest
    | .ok (some .directory) => makeDirectories fs (done ++ [name]) rest
    | .ok (some (.file _)) => (.error (if rest = [] then .alreadyExists else .notDirectory), fs)

/-- The parent directory of a path, made if nothing stands there. A name alone has the top as its parent. -/
def makeParent (fs : Files) (p : Path) : Except FileError Unit × Files :=
  if p.parent.pieces = [] || fs.has p.parent then (.ok (), fs)
  else
    match p.parent.check with
    | .error e => (.error e, fs)
    | .ok _ => fs.makeDirectories [] p.parent.names

/-- Writes a text at a path, with the directories it needs. Directories stay if the text cannot be written. -/
def save (fs : Files) (path text : String) : Except FileError Unit × Files :=
  match fs.makeParent (.ofText path) with
  | (.error e, fs) => (.error e, fs)
  | (.ok _, fs) =>
    match fs.write (.ofText path) (.text text) with
    | .error e => (.error e, fs)
    | .ok fs => (.ok (), fs)

/-- The names in the directory with some names, with what stands there. -/
def children (fs : Files) (directory : List String) : List (String × FileNode) :=
  fs.nodes.filterMap fun (parts, node) =>
    match parts.getLast? with
    | some name => if parts.dropLast = directory then some (name, node) else none
    | none => none

/-- The paths of the files that are no module images, in order. -/
def list (fs : Files) : List String :=
  let paths := fs.nodes.filterMap fun (parts, node) => match node with
    | .file (.image _) => none
    | .file _ => some (String.intercalate "/" parts)
    | .directory => none
  paths.mergeSort (fun a b => decide (a ≤ b))

end Files
end Calibration
