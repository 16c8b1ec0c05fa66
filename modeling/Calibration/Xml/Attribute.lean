/-
# Attributes of a start tag

What follows the name in a start tag is a row of `key = "value"`, in either kind of quotes. A key begins at the
first character that is no space, whatever it is, and runs to the next `=` or space.
-/

import Calibration.Assoc
import Calibration.Xml.Reference

namespace Calibration
namespace Xml

/-- The white space of markup. -/
def isSpace (c : Char) : Bool := c == ' ' || c == '\t' || c == '\r' || c == '\n'

/-- A character of an attribute key, its first one apart. -/
def isKeyChar (c : Char) : Bool := c != '=' && !isSpace c

/-- What is left behind blanks is no longer than before, so that reading goes forward. -/
theorem length_dropWhile_le (p : Char → Bool) (cs : List Char) :
    (cs.dropWhile p).length ≤ cs.length :=
  (List.dropWhile_suffix p).length_le

/-- Reads attributes from the offset `position` on, in a tag of `length` bytes; `seen` are the keys before,
each with its offset. -/
def attributesFrom (length position : Nat) (seen : List (List Char × Nat)) (cs : List Char) :
    Except Error (Assoc String) :=
  let start := position + byteCount (cs.takeWhile isSpace)
  match _h₁ : cs.dropWhile isSpace with
  | [] => .ok []
  | c :: afterFirst =>
    let key := c :: afterFirst.takeWhile isKeyChar
    let afterKey := afterFirst.dropWhile isKeyChar
    let equals := start + byteCount key + byteCount (afterKey.takeWhile isSpace)
    match _h₂ : afterKey.dropWhile isSpace with
    | [] => .error (.badAttribute (.expectedEquals length))
    | '=' :: afterEquals =>
      match seen.find? (·.1 = key) with
      | some (_, earlier) => .error (.badAttribute (.duplicated start earlier))
      | none =>
        let opening := equals + 1 + byteCount (afterEquals.takeWhile isSpace)
        match _h₃ : afterEquals.dropWhile isSpace with
        | [] => .error (.badAttribute (.expectedValue length))
        | quote :: body =>
          if quote = '"' ∨ quote = '\'' then
            let value := body.takeWhile (· != quote)
            match _h₄ : body.dropWhile (· != quote) with
            | [] => .error (.badAttribute (.unclosedQuote length quote))
            | _ :: rest => do
              let text ← (unescape value).mapError .badReference
              let more ← attributesFrom length (opening + 1 + byteCount value + 1) ((key, start) :: seen) rest
              return (String.ofList key, String.ofList text) :: more
          else .error (.badAttribute (.expectedQuote opening))
    | _ => .error (.badAttribute (.expectedEquals equals))
termination_by cs.length
decreasing_by
  have l₁ := length_dropWhile_le isSpace cs
  have l₂ := length_dropWhile_le isSpace (afterFirst.dropWhile isKeyChar)
  have l₂' := length_dropWhile_le isKeyChar afterFirst
  have l₃ := length_dropWhile_le isSpace afterEquals
  have l₄ := length_dropWhile_le (· != quote) body
  rw [_h₁] at l₁
  rw [_h₂] at l₂
  rw [_h₃] at l₃
  rw [_h₄] at l₄
  simp only [List.length_cons] at l₁ l₂ l₃ l₄ ⊢
  omega

/-- The inside of a start tag, cut where its name ends. -/
structure Tag where
  name : List Char
  rest : List Char
deriving DecidableEq, Repr

namespace Tag

/-- The name runs to the first space. -/
def ofInside (inside : List Char) : Tag :=
  ⟨inside.takeWhile (!isSpace ·), inside.dropWhile (!isSpace ·)⟩

/-- The attributes of the tag. -/
def attributes (t : Tag) : Except Error (Assoc String) :=
  attributesFrom (byteCount t.name + byteCount t.rest) (byteCount t.name) [] t.rest

end Tag
end Xml
end Calibration
