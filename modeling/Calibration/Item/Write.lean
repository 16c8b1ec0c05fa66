/-
# Items as markup

How an item writes its value into an element: a scalar as text, an array as one `value` element for each value,
a reading as one element for each axis, a record as a `record` element around a `dict`. Entries of a dict are
`item` elements with a key and a type; transient ones are left out. Only an item that refuses fails.
-/

import Calibration.Dict.Error
import Calibration.Item.Basic
import Calibration.Text.Base64
import Calibration.Xml.Element

namespace Calibration

open Xml (Content Element)

namespace Xml.Content

/-- One element around each text, in order. -/
def wrapped (name : String) : List String → Content
  | [] => nil
  | s :: rest => element name [] (ofText s) (wrapped name rest)

end Xml.Content

namespace Item

/-- The reading, axis by axis. -/
def axes (m : Measurement) : Content :=
  .element "x" [] (.ofText m.x.text) (.element "y" [] (.ofText m.y.text)
    (.element "z" [] (.ofText m.z.text) .nil))

mutual

/-- The content that an item writes. -/
def write : Item → Except DictError Content
  | bool value _ => .ok (.ofText (Scalar.bool.write value))
  | int value _ => .ok (.ofText (Scalar.int.write value))
  | double value _ => .ok (.ofText (Scalar.double.write value))
  | string value _ => .ok (.ofText (Scalar.string.write value))
  | blob bytes => .ok (.ofText (String.ofList (Text.Base64.encode bytes)))
  | intArray values => .ok (.wrapped "value" (values.map Scalar.int.write))
  | doubleArray values => .ok (.wrapped "value" (values.map Scalar.double.write))
  | stringArray values => .ok (.wrapped "value" (values.map Scalar.string.write))
  | xyz value => .ok (axes value)
  | record name stamp entries _ => do
    let content ← writeEntries entries
    return .element "record" [("name", name), ("timestamp", stamp.text)] (.element "dict" [] content .nil) .nil
  | custom c => c.write

/-- The content that dict entries write. -/
def writeEntries : List (String × Item) → Except DictError Content
  | [] => .ok .nil
  | (key, item) :: rest =>
    if item.isSerializable then do
      let content ← item.write
      let more ← writeEntries rest
      return .element "item" [("key", key), ("type", item.tag)] content more
    else writeEntries rest

end

/-- An element with the item's value in it. -/
def toElement (item : Item) (name : String) : Except DictError Element := do
  return { name, body := ← item.write }

end Item
end Calibration
