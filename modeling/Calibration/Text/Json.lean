/-
# JSON text

Values with their fields in order, written without blanks (`compact`) or with one value a line (`pretty`).
-/

import Calibration.Number.Decimal
import Calibration.Text.Quoted

namespace Calibration
namespace Text

/-- A JSON value; numbers are integers. -/
inductive Json where
  | null
  | bool (b : Bool)
  | number (n : Int)
  | string (s : String)
  | array (values : List Json)
  | object (fields : List (String × Json))

namespace Json

instance : Inhabited Json := ⟨null⟩

/-- A string, or null. -/
def ofOption (s : Option String) : Json :=
  match s with
  | some s => string s
  | none => null

/-- An array of strings. -/
def strings (xs : List String) : Json := array (xs.map string)

/-- One character inside quotes. -/
def escapedChar (c : Char) : List Char :=
  if c = '"' then ['\\', '"']
  else if c = '\\' then ['\\', '\\']
  else if c = '\n' then ['\\', 'n']
  else if c = '\r' then ['\\', 'r']
  else if c = '\t' then ['\\', 't']
  else if c = '\x08' then ['\\', 'b']
  else if c = '\x0c' then ['\\', 'f']
  else if c.toNat < 32 then ['\\', 'u', '0', '0'] ++ (if c.toNat < 16 then ['0'] else []) ++ hexDigits c.toNat
  else [c]

/-- A string in quotes. -/
def quote (s : String) : String := String.ofList ('"' :: s.toList.flatMap escapedChar ++ ['"'])

mutual

/-- The value without blanks. -/
def compact : Json → String
  | null => "null"
  | bool b => if b then "true" else "false"
  | number n => String.ofList (Number.integerDigits n)
  | string s => quote s
  | array values => "[" ++ String.intercalate "," (compactAll values) ++ "]"
  | object fields => "\x7b" ++ String.intercalate "," (compactFields fields) ++ "\x7d"

def compactAll : List Json → List String
  | [] => []
  | v :: rest => compact v :: compactAll rest

def compactFields : List (String × Json) → List String
  | [] => []
  | (key, v) :: rest => (quote key ++ ":" ++ compact v) :: compactFields rest

end

/-- A line break with the indentation of a level. -/
def newLine (level : Nat) : String := String.ofList ('\n' :: List.replicate (2 * level) ' ')

/-- Values in brackets, one a line; without values the brackets alone. -/
def block (opening closing : String) (level : Nat) (values : List String) : String :=
  if values.isEmpty then opening ++ closing
  else opening ++ newLine (level + 1) ++ String.intercalate ("," ++ newLine (level + 1)) values ++
    newLine level ++ closing

mutual

/-- The value with one value a line, two blanks more for each level. -/
def pretty (level : Nat) : Json → String
  | array values => block "[" "]" level (prettyAll (level + 1) values)
  | object fields => block "\x7b" "\x7d" level (prettyFields (level + 1) fields)
  | null => "null"
  | bool b => if b then "true" else "false"
  | number n => String.ofList (Number.integerDigits n)
  | string s => quote s

def prettyAll (level : Nat) : List Json → List String
  | [] => []
  | v :: rest => pretty level v :: prettyAll level rest

def prettyFields (level : Nat) : List (String × Json) → List String
  | [] => []
  | (key, v) :: rest => (quote key ++ ": " ++ pretty level v) :: prettyFields level rest

end

end Json
end Text
end Calibration
