/-
# Items

A dict holds items: scalars, bytes, arrays, tristimulus readings, calibration records, and items of types that
plugins define. Every item has a type tag. A scalar may be transient: it is kept in memory and never written.
A calibration record is a named snapshot of dict entries; it remembers which item types its entries may have.
An item of a plugin's own type brings its writer and its reader with it.
-/

import Calibration.Assoc
import Calibration.Dict.Error
import Calibration.Item.Scalar
import Calibration.Time.Timestamp
import Calibration.Xml.Element

namespace Calibration

open Number (Binary64)
open Xml (Content Element)

/-- A tristimulus reading. -/
structure Measurement where
  x : Binary64
  y : Binary64
  z : Binary64
deriving DecidableEq, Repr, Inhabited

namespace Measurement

/-- The chromaticity coordinates; a reading without light has none. -/
def chromaticity? (m : Measurement) : Option (Binary64 × Binary64) :=
  let sum := m.x + m.y + m.z
  if sum.isPositive then some (m.x / sum, m.y / sum) else none

end Measurement

/-- Which item types a dict can read: the built-in ones, or also those of the host's table. -/
inductive TypeScope where
  | builtin
  | host
deriving DecidableEq, Repr

/-- How the values of a plugin's own item type are written and read. A value is told by a text, whatever it stands
for; the writer and the reader are any functions, and both may fail. -/
class ItemFormat where
  /-- The value is written when its dict is. -/
  isSerializable : String → Bool
  /-- What the value writes into the element of its item. -/
  write : String → Except DictError Content
  /-- The value that the element holds, for an item that held another one before. -/
  read : String → Element → Except DictError String

/-- The value itself is the text of the element. -/
instance ItemFormat.text : ItemFormat where
  isSerializable _ := true
  write value := .ok (.ofText value)
  read _ e := .ok e.text

@[simp] theorem ItemFormat.read_text (value : String) (e : Element) : ItemFormat.text.read value e = .ok e.text := rfl

/-- Whether an item of a plugin's own type takes part in writing and reading. -/
inductive CustomMode where
  | plain
  | transient
  | refusesWriting
  | refusesReading
deriving DecidableEq, Repr

/-- An item of a plugin's own type: a value under a type tag. Its values are texts, unless another format is given. -/
structure Custom where
  tag : String
  value : String
  mode : CustomMode := .plain
  [format : ItemFormat]

namespace Custom

/-- The item is written when its dict is. -/
def isSerializable (c : Custom) : Bool := c.mode != .transient && c.format.isSerializable c.value

/-- The content that the item writes. -/
def write (c : Custom) : Except DictError Content :=
  if c.mode = .refusesWriting then .error (.invalidValue c.tag c.value) else c.format.write c.value

/-- The item with the value that the element holds. -/
def read (c : Custom) (e : Element) : Except DictError Custom :=
  if c.mode = .refusesReading then .error (.invalidValue c.tag e.text)
  else (c.format.read c.value e).map fun value => { c with value }

end Custom

/-- A value of a dict. -/
inductive Item where
  | bool (value : Bool) (transient : Bool := false)
  | int (value : Int32) (transient : Bool := false)
  | double (value : Binary64) (transient : Bool := false)
  | string (value : String) (transient : Bool := false)
  | blob (bytes : List UInt8)
  | intArray (values : List Int32)
  | doubleArray (values : List Binary64)
  | stringArray (values : List String)
  | xyz (value : Measurement)
  | record (name : String) (stamp : Time.Timestamp) (entries : List (String × Item)) (scope : TypeScope)
  | custom (c : Custom)

namespace Item

instance : Inhabited Item := ⟨.bool false⟩

/-- The type tag. -/
def tag : Item → String
  | bool .. => "bool"
  | int .. => "int"
  | double .. => "double"
  | string .. => "string"
  | blob _ => "blob"
  | intArray _ => "intArray"
  | doubleArray _ => "doubleArray"
  | stringArray _ => "stringArray"
  | xyz _ => "Xyz"
  | record .. => "CalibRecord"
  | custom c => c.tag

/-- The item is written when its dict is. -/
def isSerializable : Item → Bool
  | bool _ transient => !transient
  | int _ transient => !transient
  | double _ transient => !transient
  | string _ transient => !transient
  | custom c => c.isSerializable
  | _ => true

/-- The blank reading. -/
def blankXyz : Item := xyz default

/-- The blank calibration record. -/
def blankRecord (scope : TypeScope) : Item := record "" .epoch [] scope

/-- The blank item of a built-in type. -/
def builtin? (tag : String) : Option Item :=
  match tag with
  | "bool" => some (bool false)
  | "int" => some (int 0)
  | "double" => some (double .zero)
  | "string" => some (string "")
  | "blob" => some (blob [])
  | "intArray" => some (intArray [])
  | "doubleArray" => some (doubleArray [])
  | "stringArray" => some (stringArray [])
  | _ => none

end Item
end Calibration
