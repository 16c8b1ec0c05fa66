/-
# Items from markup

How an item reads its value from an element. A reader looks at the text or at the child elements it knows and
passes over the rest; it fails at the first value that is none. Entries of a dict that cannot be read are
passed over as well: those without key or type, of an unknown type, or with a value that is none.
-/

import Calibration.Dict.Error
import Calibration.Item.Types
import Calibration.Text.Base64
import Calibration.Xml.Element

namespace Calibration

open Xml (Content Element)

namespace Scalar

variable {α : Type}

/-- Reads one value of an item with the type tag. -/
def parse (form : Scalar α) (tag text : String) : Except DictError α :=
  match form.read? text with
  | some value => .ok value
  | none => .error (.invalidValue tag text)

/-- Reads the values in the `value` children. -/
def parseAll (form : Scalar α) (tag : String) (e : Element) : Except DictError (List α) :=
  (e.children.filter (·.name = "value")).mapM fun child => form.parse tag child.text

end Scalar

namespace Item

/-- Reads one axis of a reading. -/
def readAxis (e : Element) (axis : String) : Except DictError Number.Binary64 :=
  match e.body.child? axis with
  | none => .error (.invalidValue "Xyz" ("missing <" ++ axis ++ ">"))
  | some child => Scalar.double.parse "Xyz" child.text

/-- Reads bytes. -/
def readBlob (e : Element) : Except DictError (List UInt8) :=
  match Text.Base64.decode (Text.trimChars e.text.toList) with
  | some bytes => .ok bytes
  | none => .error (.invalidValue "blob" e.text)

/-- The name and the time of a record. -/
def readRecordHead (e : Element) : Except DictError (String × Time.Timestamp) :=
  match e.attribute? "name", e.attribute? "timestamp" with
  | none, _ => .error (.invalidValue "CalibRecord" "missing name")
  | some _, none => .error (.invalidValue "CalibRecord" "missing timestamp")
  | some name, some stamp =>
    match Time.Timestamp.read? stamp with
    | some time => .ok (name, time)
    | none => .error (.invalidValue "CalibRecord" stamp)

mutual

/-- The item with the value that the element holds. -/
def read (types : ItemTypes) (item : Item) (e : Element) : Except DictError Item :=
  match item with
  | bool _ transient => do return bool (← Scalar.bool.parse "bool" e.text) transient
  | int _ transient => do return int (← Scalar.int.parse "int" e.text) transient
  | double _ transient => do return double (← Scalar.double.parse "double" e.text) transient
  | string _ transient => do return string (← Scalar.string.parse "string" e.text) transient
  | blob _ => do return blob (← readBlob e)
  | intArray _ => do return intArray (← Scalar.int.parseAll "intArray" e)
  | doubleArray _ => do return doubleArray (← Scalar.double.parseAll "doubleArray" e)
  | stringArray _ => do return stringArray (← Scalar.string.parseAll "stringArray" e)
  | xyz _ => do return xyz ⟨← readAxis e "x", ← readAxis e "y", ← readAxis e "z"⟩
  | record _ _ _ scope =>
    match _h₁ : e.body.child? "record" with
    | none => .error (.unexpectedElement "record" e.name)
    | some r => do
      let (name, stamp) ← readRecordHead r
      match _h₂ : r.body.child? "dict" with
      | none => return record name stamp [] scope
      | some d => return record name stamp (readEntries types scope d.body []) scope
  | custom c => (c.read e).map custom
termination_by 2 * e.body.size
decreasing_by
  have := Content.size_lt_of_child? _h₁
  have := Content.size_lt_of_child? _h₂
  omega

/-- The entries with those that the content holds written over them, in order. -/
def readEntries (types : ItemTypes) (scope : TypeScope) (content : Content) (entries : Assoc Item) :
    Assoc Item :=
  match content with
  | .nil => entries
  | .text _ rest => readEntries types scope rest entries
  | .element name attributes body rest =>
    readEntries types scope rest (readEntry types scope ⟨name, attributes, body⟩ entries)
termination_by 2 * content.size
decreasing_by all_goals simp only [Content.size]; omega

/-- The entries with that of one child element written over them, if it can be read. -/
def readEntry (types : ItemTypes) (scope : TypeScope) (e : Element) (entries : Assoc Item) : Assoc Item :=
  if e.name = "item" then
    match e.attribute? "key", e.attribute? "type" with
    | some key, some tag =>
      match types.createIn? scope tag with
      | some blank =>
        match blank.read types e with
        | .ok item => entries.set key item
        | .error _ => entries
      | none => entries
    | _, _ => entries
  else entries
termination_by 2 * e.body.size + 1
decreasing_by omega

end

end Item
end Calibration
