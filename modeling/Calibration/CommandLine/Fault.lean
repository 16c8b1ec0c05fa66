/-
# Faults as the command line shows them

A fault has a message, and below it what caused it, one cause a line. Two or more causes are numbered. What was
being done when the fault came up stands above it.
-/

import Calibration.Dict.Error
import Calibration.Registry.Error

namespace Calibration
namespace CommandLine

/-- A fault and its causes, the nearest first. -/
structure Fault where
  message : String
  causes : List String := []
deriving DecidableEq, Repr

namespace Fault

/-- The fault with what was being done above it. -/
def during (f : Fault) (task : String) : Fault := ⟨task, f.message :: f.causes⟩

/-- A fault of the registry; what it passes on from elsewhere is its cause. -/
def ofRegistry (e : RegistryError) : Fault where
  message := e.message
  causes := match e with
    | .plugin fault => [fault.message]
    | .lifecycle fault => [fault.message]
    | .chain fault => [fault.message]
    | .file fault => [fault.message]
    | _ => []

/-- A fault of a dict. -/
def ofDict (e : DictError) : Fault where
  message := e.message
  causes := match e with
    | .file fault => [fault.message]
    | _ => []

/-- A text with a lead in front of its first line and blanks of `width` in front of the others. -/
def indented (lead : String) (width : Nat) (text : String) : String :=
  lead ++ String.ofList (text.toList.flatMap fun c =>
    if c = '\n' then '\n' :: List.replicate width ' ' else [c])

/-- The lines of the causes. -/
def causeLines : List String → List String
  | [cause] => [indented "    " 4 cause]
  | causes => causes.mapIdx fun i cause =>
    let number := String.ofList (Number.digits i)
    indented (String.ofList (List.replicate (5 - number.length) ' ') ++ number ++ ": ") 7 cause

/-- The fault in full. -/
def text (f : Fault) : String :=
  let causes := if f.causes.isEmpty then [] else ["", "Caused by:"] ++ causeLines f.causes
  String.intercalate "\n" (("Error: " ++ f.message) :: causes) ++ "\n"

end Fault
end CommandLine
end Calibration
