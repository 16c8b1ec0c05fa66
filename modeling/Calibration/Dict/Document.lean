/-
# Dicts as documents

A dict is written as a `dict` element with its serializable entries. Reading merges the entries of such an
element over those of a dict; a document of another kind is refused and changes nothing.
-/

import Calibration.Dict.Basic
import Calibration.Item.Read
import Calibration.Item.Write
import Calibration.Xml.Document
import Calibration.Xml.Layout

namespace Calibration
namespace Dict

open Xml (Element)

/-- The dict as an element. -/
def toElement (d : Dict) : Except DictError Element := do
  return { name := "dict", body := ← Item.writeEntries d.entries }

/-- The dict as a document. -/
def toXml (d : Dict) : Except DictError String := do
  return (← d.toElement).render

/-- The dict with the entries of a `dict` element written over its own. -/
def merge (d : Dict) (types : ItemTypes) (e : Element) : Except DictError Dict :=
  if e.name = "dict" then
    .ok { d with entries := Item.readEntries types d.scope e.body d.entries }
  else .error (.unexpectedElement "dict" e.name)

/-- The dict with the entries of a document written over its own. -/
def mergeXml (d : Dict) (types : ItemTypes) (xml : String) : Except DictError Dict :=
  match Xml.parse xml with
  | .ok e => d.merge types e
  | .error fault => .error (.xml fault.message)

/-- The dict that a document holds, read in a scope of item types. -/
def ofXml (types : ItemTypes) (scope : TypeScope) (xml : String) : Except DictError Dict :=
  mergeXml { scope } types xml

end Dict
end Calibration
