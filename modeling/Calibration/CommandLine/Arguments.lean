/-
# Arguments

A row of arguments is read against a grammar: options with a long name and perhaps a letter, positional values,
and the names of commands, which have a grammar of their own. Options and values may be mixed; behind `--`
everything is a positional value. The first argument that does not fit ends the reading, and so does a request
for help or for the version.
-/

import Calibration.Number.Decimal

namespace Calibration
namespace CommandLine

/-- What an option or a position takes. -/
inductive ValueKind where
  /-- Nothing: the option is there or not. -/
  | none
  | text
  | path
  | number
deriving DecidableEq, Repr

/-- A natural number of 64 bits, perhaps with a plus sign. -/
def readNumber? (s : String) : Option Nat :=
  let digits := match s.toList with
    | '+' :: cs => cs
    | cs => cs
  (Number.readNat? digits).filter (· < 18446744073709551616)

/-- A value is of the kind. -/
def ValueKind.accepts : ValueKind → String → Bool
  | none, _ => true
  | text, _ => true
  | path, s => s ≠ ""
  | number, s => (readNumber? s).isSome

/-- How an option is written, and what it is for. -/
structure OptionForm where
  long : String
  short? : Option Char := none
  kind : ValueKind := .none
  isRepeatable : Bool := false
  /-- What stands for the value in help. -/
  placeholder : String := ""
  about : String
deriving DecidableEq, Repr

/-- A positional value, and what it is for. -/
structure Position where
  kind : ValueKind := .text
  placeholder : String
  about : String
  /-- Any number of values may stand here, or none. -/
  isRepeatable : Bool := false
deriving DecidableEq, Repr

/-- The arguments that fit together: options, positional values, and commands with what they are for. -/
structure Grammar where
  about : String
  options : List OptionForm := []
  positions : List Position := []
  commands : List (String × String) := []
deriving DecidableEq, Repr

namespace Grammar

def long? (g : Grammar) (name : String) : Option OptionForm := g.options.find? (·.long = name)

def short? (g : Grammar) (c : Char) : Option OptionForm := g.options.find? (·.short? = some c)

def hasCommand (g : Grammar) (name : String) : Bool := g.commands.any (·.1 = name)

end Grammar

/-- What was given: the options by their long names, and the positional values, in order. -/
structure Given where
  options : List (String × String) := []
  positions : List String := []
deriving DecidableEq, Repr

namespace Given

/-- The option was given. -/
def has (v : Given) (long : String) : Bool := v.options.any (·.1 = long)

/-- The values of an option. -/
def values (v : Given) (long : String) : List String := (v.options.filter (·.1 = long)).map (·.2)

/-- With an option more. Most options may be given once. -/
def option? (v : Given) (form : OptionForm) (value : String) : Option Given :=
  if (form.isRepeatable || !v.has form.long) && form.kind.accepts value then
    some { v with options := v.options ++ [(form.long, value)] }
  else none

/-- With a positional value more. -/
def position? (v : Given) (g : Grammar) (value : String) : Option Given :=
  match g.positions[v.positions.length]? with
  | some p => if p.kind.accepts value then some { v with positions := v.positions ++ [value] } else none
  | none => none

end Given

/-- How an argument looks: `--`, `--name` or `--name=value`, a dash with letters, or a plain word. -/
inductive Shape where
  | divider
  | long (name : String) (value? : Option String)
  | short (letters : List Char)
  | plain
deriving DecidableEq, Repr

/-- The shape of an argument. A dash alone is a plain word. -/
def Shape.of (argument : String) : Shape :=
  match argument.toList with
  | ['-', '-'] => divider
  | '-' :: '-' :: cs =>
    match cs.dropWhile (· ≠ '=') with
    | _ :: value => long (String.ofList (cs.takeWhile (· ≠ '='))) (some (String.ofList value))
    | [] => long (String.ofList cs) none
  | '-' :: c :: cs => short (c :: cs)
  | _ => plain

/-- Where the reading stands after an argument. -/
inductive Step where
  | taken (v : Given)
  /-- The option needs the next argument. -/
  | pending (v : Given) (form : OptionForm)
  /-- Help or the version is asked for. -/
  | asked (name : String)
  | refused
deriving DecidableEq, Repr

namespace Step

/-- The step that takes something, if it fits. -/
def ofGiven : Option Given → Step
  | some v => taken v
  | none => refused

/-- An option that takes no value. -/
def flag (v : Given) (form : OptionForm) : Step :=
  if form.long = "help" || form.long = "version" then asked form.long else ofGiven (v.option? form "")

/-- An option by its long name. -/
def long (g : Grammar) (v : Given) (name : String) (value? : Option String) : Step :=
  match g.long? name with
  | none => refused
  | some form =>
    match form.kind, value? with
    | .none, none => flag v form
    | .none, some _ => refused
    | _, none => pending v form
    | _, some value => ofGiven (v.option? form value)

/-- Options by their letters; what follows an option that takes a value is its value. -/
def letters (g : Grammar) (v : Given) : List Char → Step
  | [] => taken v
  | c :: cs =>
    match g.short? c with
    | none => refused
    | some form =>
      match form.kind, cs with
      | .none, cs =>
        match flag v form with
        | taken v => letters g v cs
        | other => other
      | _, [] => pending v form
      | _, '=' :: cs => ofGiven (v.option? form (String.ofList cs))
      | _, cs => ofGiven (v.option? form (String.ofList cs))

end Step

/-- What a row of arguments comes to. -/
inductive Reading where
  | done (v : Given)
  | command (v : Given) (name : String) (rest : List String)
  | asked (name : String)
deriving DecidableEq, Repr

/-- Takes arguments as positional values. -/
def readPositions? (g : Grammar) (v : Given) (arguments : List String) : Option Given :=
  arguments.foldlM (·.position? g ·) v

/-- Reads arguments behind those that gave `v`. -/
def read? (g : Grammar) (v : Given) : List String → Option Reading
  | [] => some (.done v)
  | a :: rest =>
    let go (step : Step) : Option Reading :=
      match step, rest with
      | .taken v, rest => read? g v rest
      | .pending v form, value :: rest =>
        if Shape.of value = .plain then (v.option? form value).bind fun v => read? g v rest else none
      | .pending .., [] => none
      | .asked name, _ => some (.asked name)
      | .refused, _ => none
    match Shape.of a with
    | .divider => (readPositions? g v rest).map .done
    | .long name value? => go (.long g v name value?)
    | .short cs => go (.letters g v cs)
    | .plain => if g.hasCommand a then some (.command v a rest) else go (.ofGiven (v.position? g a))
termination_by arguments => arguments.length

end CommandLine
end Calibration
