/-
# Items as JSON

The value of an item in records: numbers of 32 bits as numbers, doubles as texts, bytes as a hexadecimal text. A
calibration record has no value of its own.
-/

import Calibration.Item.Basic
import Calibration.Text.Json

namespace Calibration

open Text (Json)

/-- Two hexadecimal digits for each byte. -/
def hexText (bytes : List UInt8) : String :=
  String.ofList (bytes.flatMap fun b => (if b < 16 then ['0'] else []) ++ Text.hexDigits b.toNat)

namespace Item

/-- The value of an item. -/
def valueJson : Item → Json
  | bool value _ => .bool value
  | int value _ => .number value.toInt
  | double value _ => .string value.text
  | string value _ => .string value
  | blob bytes => .string (hexText bytes)
  | intArray values => .array (values.map fun n => .number n.toInt)
  | doubleArray values => .strings (values.map (·.text))
  | stringArray values => .strings values
  | xyz m => .strings [m.x.text, m.y.text, m.z.text]
  | record .. => .null
  | custom c => .string c.value

end Item
end Calibration
