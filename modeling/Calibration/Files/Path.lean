/-
# Paths

A path is a row of names between slashes, relative to the directory of the host. Empty names and `.` mean
nothing, but a path that ends in one can only be a directory. Names and paths have a greatest length, in bytes.
Any text is a path; whether it can name something is checked when it is used.
-/

import Calibration.Files.Error

namespace Calibration

/-- A path: the pieces of its text between the slashes. -/
structure Path where
  pieces : List String
deriving DecidableEq, Repr

namespace Path

/-- The pieces of a text between the separators. -/
def split (separator : Char) : List Char → List (List Char)
  | [] => [[]]
  | c :: cs =>
    match split separator cs with
    | [] => [[c]]
    | piece :: more => if c = separator then [] :: piece :: more else (c :: piece) :: more

/-- The path with a text. -/
def ofText (s : String) : Path := ⟨(split '/' s.toList).map String.ofList⟩

/-- The piece means no step down. -/
def isIdle (piece : String) : Bool := piece = "" || piece = "."

/-- The names on the way down. -/
def names (p : Path) : List String := p.pieces.filter (!isIdle ·)

/-- Only a directory can stand at the path. -/
def directoryOnly (p : Path) : Bool := (p.pieces.getLast?.map isIdle).getD true

/-- The pieces without idle ones at the end. -/
def trimEnd : List String → List String
  | [] => []
  | piece :: rest =>
    match trimEnd rest with
    | [] => if isIdle piece then [] else [piece]
    | kept => piece :: kept

/-- The path without its last name. -/
def parent (p : Path) : Path := ⟨trimEnd (trimEnd p.pieces).dropLast⟩

/-- The bytes of pieces with slashes between them. -/
def size : List String → Nat
  | [] => 0
  | [piece] => piece.utf8ByteSize
  | piece :: rest => piece.utf8ByteSize + 1 + size rest

/-- The most bytes of a path. -/
def limit : Nat := 4095

/-- The most bytes of a name. -/
def nameLimit : Nat := 255

/-- The path can name something: it holds no NUL, is not too long, and is neither empty nor absolute. -/
def check (p : Path) : Except FileError Unit :=
  if p.pieces.any (·.toList.contains '\x00') then .error .nulInPath
  else if limit < size p.pieces then .error .nameTooLong
  else if p.pieces.head?.getD "" = "" then .error .notFound
  else .ok ()

/-- A path as text, followed by one name more. -/
def join (directory name : String) : String :=
  if directory.toList.getLast? = some '/' then directory ++ name else directory ++ "/" ++ name

/-- What follows the last point of a name, the first character apart: a name that begins with its only point
has no extension. -/
def extension? (name : String) : Option String :=
  match (split '.' name.toList).reverse with
  | ext :: first :: more => if first = [] ∧ more = [] then none else some (String.ofList ext)
  | _ => none

end Path
end Calibration
