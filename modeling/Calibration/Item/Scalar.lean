/-
# Scalar values as text

The four kinds of scalars that items and arrays hold, each with its written form and its reader. Readers of
truth values and numbers do not mind blanks around the value; a string is the text itself.
-/

import Calibration.Number.Shortest
import Calibration.Text.Blank

namespace Calibration

/-- How the values of a kind are written and read. -/
structure Scalar (α : Type) where
  write : α → String
  read? : String → Option α

namespace Scalar

/-- `1` or `0`. -/
def bool : Scalar Bool where
  write b := if b then "1" else "0"
  read? s :=
    if Text.trim s = "1" then some true else if Text.trim s = "0" then some false else none

/-- The integers of 32 bits. -/
def int32? (n : Int) : Option Int32 :=
  if -2147483648 ≤ n ∧ n ≤ 2147483647 then some (Int32.ofInt n) else none

/-- A decimal integer of 32 bits. -/
def int : Scalar Int32 where
  write n := String.ofList (Number.integerDigits n.toInt)
  read? s := (Number.readInt? (Text.trimChars s.toList)).bind int32?

/-- A double. -/
def double : Scalar Number.Binary64 where
  write x := x.text
  read? s := Number.Binary64.readChars? (Text.trimChars s.toList)

/-- A text as it is. -/
def string : Scalar String where
  write s := s
  read? s := some s

end Scalar
end Calibration
