/-
# Dicts

A dict is an insertion-ordered store of items under keys, together with the scope of item types that it can
read. Its operations are those of its entries.
-/

import Calibration.Dict.Error
import Calibration.Item.Types

namespace Calibration

/-- Items under keys, in order of insertion. -/
structure Dict where
  entries : Assoc Item := []
  scope : TypeScope := .builtin

namespace Dict

instance : Inhabited Dict := ⟨{}⟩

/-- The item at a key. -/
def get? (d : Dict) (key : String) : Option Item := d.entries.find? key

/-- Writes an item: in place at a present key, else at the end. -/
def set (d : Dict) (key : String) (item : Item) : Dict := { d with entries := d.entries.set key item }

/-- Without the key. -/
def erase (d : Dict) (key : String) : Dict := { d with entries := d.entries.erase key }

/-- Removes a key; tells whether it was there. -/
def remove (d : Dict) (key : String) : Bool × Dict := (d.entries.has key, d.erase key)

/-- Removes a key; gives the item that was there. -/
def take (d : Dict) (key : String) : Option Item × Dict := (d.get? key, d.erase key)

/-- Changes the item at a key, if there is one, in its place. -/
def modify (d : Dict) (key : String) (f : Item → Item) : Dict :=
  match d.get? key with
  | some item => d.set key (f item)
  | none => d

/-- Without any entry. -/
def clear (d : Dict) : Dict := { d with entries := [] }

/-- The keys in order. -/
def keys (d : Dict) : List String := d.entries.keys

def getBool? (d : Dict) (key : String) : Option Bool :=
  match d.get? key with
  | some (.bool value _) => some value
  | _ => none

def getInt? (d : Dict) (key : String) : Option Int32 :=
  match d.get? key with
  | some (.int value _) => some value
  | _ => none

def getDouble? (d : Dict) (key : String) : Option Number.Binary64 :=
  match d.get? key with
  | some (.double value _) => some value
  | _ => none

def getString? (d : Dict) (key : String) : Option String :=
  match d.get? key with
  | some (.string value _) => some value
  | _ => none

def getIntArray? (d : Dict) (key : String) : Option (List Int32) :=
  match d.get? key with
  | some (.intArray values) => some values
  | _ => none

def getDoubleArray? (d : Dict) (key : String) : Option (List Number.Binary64) :=
  match d.get? key with
  | some (.doubleArray values) => some values
  | _ => none

def getStringArray? (d : Dict) (key : String) : Option (List String) :=
  match d.get? key with
  | some (.stringArray values) => some values
  | _ => none

/-- The blank item of a type, if the dict knows the type. -/
def create? (d : Dict) (types : ItemTypes) (tag : String) : Option Item := types.createIn? d.scope tag

/-- The blank item of a type, or the reason why there is none. -/
def create (d : Dict) (types : ItemTypes) (tag : String) : Except DictError Item :=
  match d.create? types tag with
  | some item => .ok item
  | none => .error (.unknownType tag)

/-- The keys with the type tags of their items, as messages show a dict. -/
def debugText (d : Dict) : String :=
  "\x7b" ++ String.intercalate ", "
    (d.entries.map fun (key, item) => Text.quoted key ++ ": " ++ Text.quoted item.tag) ++ "\x7d"

end Dict
end Calibration
