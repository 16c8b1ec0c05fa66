/-
# TOML strings

A string stands in double quotes, where a backslash begins an escape, or in single quotes, where nothing does. In
three quotes of a kind it may go over several lines; a line break right after the first three does not count.
-/

import Calibration.Toml.Number

namespace Calibration
namespace Toml
namespace Reader

/-- The character of a code point in `n` digits. -/
def codePoint (n : Nat) : Reader Char := do
  let v := valueIn 16 (← times (char (isDigitOf 16)) n)
  if v.isValidChar then return Char.ofNat v else failure

/-- The character that an escape means. -/
def escape : Reader Char := do
  exactly "\\"
  match ← char fun _ => true with
  | 'b' => return '\x08'
  | 'f' => return '\x0c'
  | 'n' => return '\n'
  | 'r' => return '\r'
  | 't' => return '\t'
  | '"' => return '"'
  | '\\' => return '\\'
  | 'u' => codePoint 4
  | 'U' => codePoint 8
  | _ => failure

/-- A character that stands for itself between double quotes. -/
def isBasicChar (c : Char) : Bool := isTextChar c && c ≠ '"' && c ≠ '\\'

/-- A character that stands for itself between single quotes. -/
def isLiteralChar (c : Char) : Bool := isTextChar c && c ≠ '\''

/-- A line break inside a string. -/
def lineBreak : Reader (List Char) := do
  newLine
  return ['\n']

/-- A backslash at the end of a line, and all blanks and line breaks behind it. -/
def continuation : Reader (List Char) := do
  exactly "\\"
  spaces
  newLine
  let _gaps ← many ((do let _c ← char isSpace) <|> newLine)
  return []

/-- A piece of a string of several lines in double quotes. -/
def basicPiece : Reader (List Char) :=
  (do return [← char isBasicChar]) <|> continuation <|> (do return [← escape]) <|> lineBreak

/-- A piece of a string of several lines in single quotes. -/
def literalPiece : Reader (List Char) := (do return [← char isLiteralChar]) <|> lineBreak

/-- One or two quotes that are part of the string, as more of the string follows. -/
def innerQuotes (quote : Char) (piece : Reader (List Char)) : Reader (List Char) := do
  let q ← char (· = quote)
  let more ← optional (char (· = quote))
  return q :: more.toList ++ (← piece)

/-- Up to two quotes at the end of the string, in front of the three that close it. -/
def closing (quote : Char) : Reader (List Char) := do
  let quotes ← upTo (char (· = quote)) 5
  if 3 ≤ quotes.length then return quotes.drop 3 else failure

/-- A string of several lines, of pieces of a kind. -/
def multiLine (quote : Char) (piece : Reader (List Char)) : Reader (List Char) := do
  exactly (String.ofList [quote, quote, quote])
  let _first ← optional newLine
  let body ← many (piece <|> innerQuotes quote piece)
  return body.flatten ++ (← closing quote)

/-- A string of one line in double quotes. -/
def basic : Reader (List Char) := do
  exactly "\""
  let body ← many (char isBasicChar <|> escape)
  exactly "\""
  return body

/-- A string of one line in single quotes. -/
def literal : Reader (List Char) := do
  exactly "'"
  let body ← takeWhile isLiteralChar
  exactly "'"
  return body

/-- A string. -/
def string : Reader Node := do
  let cs ← multiLine '"' basicPiece <|> basic <|> multiLine '\'' literalPiece <|> literal
  return .string (String.ofList cs)

end Reader
end Toml
end Calibration
