/-
# Blank characters

The white space of the Unicode standard (property `White_Space`), and the trimming of a text at both ends.
Markup uses a smaller class of its own (`Calibration.Xml.isSpace`).
-/

namespace Calibration
namespace Text

/-- The characters with the property `White_Space`. -/
def isBlank (c : Char) : Bool :=
  let n := c.toNat
  (9 ≤ n && n ≤ 13) || n == 0x20 || n == 0x85 || n == 0xA0 || n == 0x1680 ||
    (0x2000 ≤ n && n ≤ 0x200A) || n == 0x2028 || n == 0x2029 || n == 0x202F || n == 0x205F ||
    n == 0x3000

/-- The characters without the blanks at both ends. -/
def trimChars (cs : List Char) : List Char :=
  ((cs.dropWhile isBlank).reverse.dropWhile isBlank).reverse

/-- The text without the blanks at both ends. -/
def trim (s : String) : String :=
  String.ofList (trimChars s.toList)

/-- The text holds blanks only. -/
def isBlankText (s : String) : Bool :=
  s.toList.all isBlank

end Text
end Calibration
