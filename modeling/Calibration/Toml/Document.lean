/-
# TOML text

Reads a document: assignments line by line, below headers that name tables. Arrays may go over several lines,
tables written as values may not. Values nest less than eighty deep.
-/

import Calibration.Toml.Text

namespace Calibration
namespace Toml
namespace Reader

/-- One name of a key, bare or in quotes. -/
def name : Reader String := do
  let cs ← basic <|> literal <|> (do
    let c ← char isBare
    return c :: (← takeWhile isBare))
  return String.ofList cs
where
  isBare (c : Char) : Bool := c.isAlphanum || c = '_' || c = '-'

/-- The number of levels that keys and values keep below. -/
def depthLimit : Nat := 80

/-- A key: names with dots between them. -/
def key : Reader (List String) := do
  let names ← separated (do spaces; let n ← name; spaces; return n) (exactly ".")
  if names.length < depthLimit then return names else failure

/-- A key, and a value that is read with `value`. -/
def assignment (value : Reader Node) : Reader Assignment := do
  let names ← key
  exactly "="
  spaces
  let v ← value
  match names.getLast? with
  | some last => return ⟨names.dropLast, last, v⟩
  | none => failure

/-- The values of an array; a comma may stand behind the last. -/
def arrayBody (value : Reader Node) : Reader Node := do
  exactly "["
  let values ← optional do
    let values ← separated (do trivia; let v ← value; trivia; return v) (exactly ",")
    let _comma ← optional (exactly ",")
    return values
  trivia
  exactly "]"
  return .array (values.getD [])

/-- The assignments of a table that is a value. -/
def tableBody (value : Reader Node) : Reader Node := do
  exactly "\x7b"
  let parts ← optional (separated (do let a ← assignment value; spaces; return a) (exactly ","))
  spaces
  exactly "\x7d"
  match assignAll .inline [] (parts.getD []) with
  | some entries => return .table .inline entries
  | none => failure

/-- A value, with arrays and tables of values at most `depth` levels deep. -/
def value : Nat → Reader Node
  | 0 => scalar
  | depth + 1 => scalar <|> arrayBody (value depth) <|> tableBody (value depth)
where
  /-- A value without values in it. -/
  scalar : Reader Node :=
    string <|> time <|> float <|> special <|> integer <|>
      (do exactly "true"; return .boolean true) <|> (do exactly "false"; return .boolean false)

/-- An assignment on a line of its own. -/
def assignmentLine : Reader Assignment := do
  let a ← assignment (value (depthLimit - 1))
  lineEnd
  return a

/-- A header on a line of its own. -/
def header : Reader Section := do
  let isRow := (← optional (exactly "[[")).isSome
  if !isRow then exactly "["
  let names ← key
  exactly (if isRow then "]]" else "]")
  lineEnd
  match names.getLast? with
  | some last => return ⟨isRow, names.dropLast, last, []⟩
  | none => failure

/-- A line without a statement. -/
def idleLine : Reader Unit := newLine <|> (do comment; newLine <|> finished)

/-- Assignments, with idle lines in front of them and between them. -/
def assignmentLines : Reader (List Assignment) := do
  let _idle ← many (do spaces; idleLine)
  many do
    spaces
    let a ← assignmentLine
    let _idle ← many (do spaces; idleLine)
    return a

/-- A header with the assignments below it. -/
def sectionPart : Reader Section := do
  spaces
  let h ← header
  return { h with body := ← assignmentLines }

/-- A document. -/
def document : Reader (Assoc Node) := do
  let _mark ← optional (exactly "\uFEFF")
  let top ← assignmentLines
  let sections ← many sectionPart
  spaces
  finished
  assemble top sections

end Reader

/-- Reads a document. -/
def read? (s : String) : Option (Assoc Node) := (Reader.document.run s.toList).map (·.1)

end Toml
end Calibration
