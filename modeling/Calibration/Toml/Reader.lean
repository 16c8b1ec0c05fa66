/-
# Readers

A reader takes characters from the front of a text, or fails and takes none. The parts that all TOML values are
made of are read here: blanks, comments, ends of lines, and groups of digits.
-/

namespace Calibration
namespace Toml

/-- Reads from the front of a text. -/
abbrev Reader (α : Type) := StateT (List Char) Option α

namespace Reader

variable {α : Type}

/-- The next character, left where it is. -/
def peek : Reader (Option Char) := return (← get).head?

/-- Nothing is left. -/
def finished : Reader Unit := do
  if !(← get).isEmpty then failure

/-- A character of a class. -/
def char (p : Char → Bool) : Reader Char := do
  match ← get with
  | c :: cs =>
    if p c then
      set cs
      return c
    else failure
  | [] => failure

/-- The characters of a class that come next. -/
def takeWhile (p : Char → Bool) : Reader (List Char) :=
  modifyGet fun cs => (cs.takeWhile p, cs.dropWhile p)

/-- Drops what begins a text, if the text begins so. -/
def dropping : List Char → List Char → Option (List Char)
  | [], cs => some cs
  | p :: ps, c :: cs => if p = c then dropping ps cs else none
  | _ :: _, [] => none

/-- A fixed text. -/
def exactly (s : String) : Reader Unit := fun cs => (dropping s.toList cs).map ((), ·)

/-- At most `n` times. -/
def upTo (r : Reader α) : Nat → Reader (List α)
  | 0 => pure []
  | n + 1 => do
    match ← optional r with
    | some a => return a :: (← upTo r n)
    | none => return []

/-- As often as possible; each time at least one character is read. -/
def many (r : Reader α) : Reader (List α) := do upTo r (← get).length

/-- One or more, with a separator between them. -/
def separated (r : Reader α) (separator : Reader Unit) : Reader (List α) := do
  let first ← r
  return first :: (← many do separator; r)

/-- Exactly `n` times. -/
def times (r : Reader α) : Nat → Reader (List α)
  | 0 => pure []
  | n + 1 => do return (← r) :: (← times r n)

/-- A blank inside a line. -/
def isSpace (c : Char) : Bool := c = ' ' || c = '\t'

def spaces : Reader Unit := do let _blanks ← takeWhile isSpace

/-- The end of a line. -/
def newLine : Reader Unit := exactly "\n" <|> exactly "\r\n"

/-- A character that may stand in text: a tab, or no control character. -/
def isTextChar (c : Char) : Bool := c = '\t' || (0x20 ≤ c.toNat && c.toNat ≠ 0x7F)

/-- From a hash sign to the end of the line. -/
def comment : Reader Unit := do
  exactly "#"
  let _words ← takeWhile isTextChar

/-- What may stand behind a statement: blanks, a comment, and the end of the line or of the text. -/
def lineEnd : Reader Unit := do
  spaces
  let _remark ← optional comment
  newLine <|> finished

/-- Blanks, ends of lines and comments. -/
def trivia : Reader Unit := do
  let _gaps ← many ((do let _c ← char isSpace) <|> newLine <|> comment)

/-- More digits of a class, with at most one underscore in front of each. -/
def moreDigits (isDigit : Char → Bool) : Reader (List Char) :=
  many (char isDigit <|> do exactly "_"; char isDigit)

/-- Digits of a class, with single underscores between them. -/
def digitGroup (isDigit : Char → Bool) : Reader (List Char) := do
  return (← char isDigit) :: (← moreDigits isDigit)

/-- A sign, if there is one. -/
def sign : Reader (List Char) := do
  return (← optional (char fun c => c = '+' || c = '-')).toList

end Reader
end Toml
end Calibration
