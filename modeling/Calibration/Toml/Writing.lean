/-
# Written TOML values

A string is written in the first of four forms that can hold it as it is: one line in double quotes, one line in
single quotes, several lines in double quotes, several lines in single quotes. If none can, it is written in
double quotes with escapes. An array of two or more texts has one on a line.
-/

import Calibration.Text.Quoted

namespace Calibration
namespace Toml

/-- A form of strings. -/
structure StringForm where
  quote : Char
  isMultiLine : Bool
deriving DecidableEq, Repr

namespace StringForm

/-- The forms, the simplest first. -/
def all : List StringForm := [⟨'"', false⟩, ⟨'\'', false⟩, ⟨'"', true⟩, ⟨'\'', true⟩]

/-- A control character that no form holds as it is. -/
def isControl (c : Char) : Bool := (c.toNat < 0x20 && c ≠ '\t' && c ≠ '\n') || c.toNat = 0x7F

/-- The length of the longest row of a character, if `run` of them stand in front. -/
def longestRun (q : Char) (run : Nat) : List Char → Nat
  | [] => run
  | c :: cs => if c = q then longestRun q (run + 1) cs else max run (longestRun q 0 cs)

/-- The form can hold a string as it is: in a row there are fewer of its quotes than it closes with, a line
breaks only where it may, and a backslash stands only between single quotes. -/
def fits (form : StringForm) (cs : List Char) : Bool :=
  !cs.any isControl &&
    decide (longestRun form.quote 0 cs < if form.isMultiLine then 3 else 1) &&
    (form.isMultiLine || !cs.contains '\n') &&
    (form.quote = '\'' || !cs.contains '\\')

/-- The form for a string that none can hold as it is. -/
def escaping (cs : List Char) : StringForm := ⟨'"', cs.contains '\n'⟩

/-- The form of a string. -/
def of (cs : List Char) : StringForm := (all.find? (·.fits cs)).getD (escaping cs)

/-- A code point in base sixteen, in upper case, with four digits. -/
def codePointText (c : Char) : List Char :=
  let ds := (Text.hexDigits c.toNat).map Char.toUpper
  List.replicate (4 - ds.length) '0' ++ ds

/-- One character between double quotes that is no quote. -/
def escapedChar (isMultiLine : Bool) (c : Char) : List Char :=
  if c = '\t' then ['\\', 't']
  else if c = '\x08' then ['\\', 'b']
  else if c = '\x0c' then ['\\', 'f']
  else if c = '\r' then ['\\', 'r']
  else if c = '\\' then ['\\', '\\']
  else if c = '\n' then (if isMultiLine then [c] else ['\\', 'n'])
  else if isControl c then ['\\', 'u'] ++ codePointText c
  else [c]

/-- The characters between double quotes, behind a row of `run` quotes. A quote that would be one too many in
a row is escaped. -/
def escaped (isMultiLine : Bool) (run : Nat) : List Char → List Char
  | [] => []
  | c :: cs =>
    if c = '"' then
      if run < (if isMultiLine then 2 else 0) then c :: escaped isMultiLine (run + 1) cs
      else '\\' :: c :: escaped isMultiLine 0 cs
    else escapedChar isMultiLine c ++ escaped isMultiLine 0 cs

/-- The string in a form. In front of several lines there is a line break that does not count. -/
def write (form : StringForm) (cs : List Char) : List Char :=
  let quotes := List.replicate (if form.isMultiLine then 3 else 1) form.quote
  let first := if form.isMultiLine && cs.contains '\n' then ['\n'] else []
  let body := if form.quote = '"' then escaped form.isMultiLine 0 cs else cs
  quotes ++ first ++ body ++ quotes

end StringForm

/-- A written string. -/
def stringText (s : String) : String := String.ofList ((StringForm.of s.toList).write s.toList)

/-- A written array of strings. -/
def arrayText : List String → String
  | [] => "[]"
  | [s] => "[" ++ stringText s ++ "]"
  | ss => "[\n" ++ String.join (ss.map fun s => "    " ++ stringText s ++ ",\n") ++ "]"

end Toml
end Calibration
