/-
# Written documents

An element is written with a declaration in front, one tag a line, two blanks more for each level. A tag that
directly follows character data stays on its line, so that no blank is added to the data.
-/

import Calibration.Xml.Element
import Calibration.Xml.Reference

namespace Calibration
namespace Xml

/-- What stands in front of a tag: a new line and the indentation of its level, or nothing behind text. -/
def lineBreak (level : Nat) (afterText : Bool) : List Char :=
  if afterText then [] else '\n' :: List.replicate (2 * level) ' '

/-- The attributes as they stand in a tag. -/
def attributeChars (attributes : Assoc String) : List Char :=
  attributes.flatMap fun (key, value) =>
    ' ' :: key.toList ++ '=' :: '"' :: escape value.toList ++ ['"']

/-- The inside of a start tag. -/
def tagChars (name : String) (attributes : Assoc String) : List Char :=
  name.toList ++ attributeChars attributes

namespace Content

/-- The last node is text; `before` tells it of what stands in front of the content. -/
def endsInText (before : Bool) : Content → Bool
  | nil => before
  | text _ rest => rest.endsInText true
  | element _ _ _ rest => rest.endsInText false

/-- The written form of a content at a level, with `tail` behind it; `afterText` tells whether text stands in front
of it. -/
def chars (level : Nat) (afterText : Bool) : Content → List Char → List Char
  | nil, tail => tail
  | text s rest, tail => escape s.toList ++ rest.chars level true tail
  | element n a nil rest, tail =>
    lineBreak level afterText ++ '<' :: tagChars n a ++ "/>".toList ++ rest.chars level false tail
  | element n a body rest, tail =>
    lineBreak level afterText ++ '<' :: tagChars n a ++ '>' :: body.chars (level + 1) false
      (lineBreak level (body.endsInText false) ++ "</".toList ++ n.toList ++ '>' :: rest.chars level false tail)

end Content

/-- What stands in front of every written document. -/
def prolog : String := "<?xml version=\"1.0\" encoding=\"UTF-8\"?>"

namespace Element

/-- The element as a document. -/
def render (e : Element) : String :=
  prolog ++ String.ofList ((Content.ofElement e).chars 0 false [])

end Element
end Xml
end Calibration
