/-
# Modules

A module is a file with plugins. Its library tells for which version of the plugin interface it was made, and
has a table with a row for each plugin: a name, a version, how to make the plugin, and possibly a factory for the
module's own item types.
-/

import Calibration.Number.Decimal
import Calibration.Plugin.Basic

namespace Calibration

/-- The version of the plugin interface. -/
def apiVersion : Nat := 1

/-- The number at the beginning of a text, `0` if there is none. -/
def versionNumber (s : String) : Nat := (Number.readNat? (s.toList.takeWhile Char.isDigit)).getD 0

/-- A module's factory for its item types. Rows that share a factory have the same identity. -/
structure ItemExport where
  identity : String
  factory : Factory
  /-- The module can also destroy the items that it makes; without that the factory is of no use. -/
  canDestroy : Bool := true

/-- A row in the table of a module. A row may come without a plugin. -/
structure Descriptor where
  name : String
  major : Nat
  minor : Nat
  plugin? : Option Plugin
  items? : Option ItemExport := none

/-- What can be found in an opened module: the interface version and the table, if they are there. -/
structure Library where
  version? : Option Nat := some apiVersion
  table? : Option (List Descriptor)

/-- Opens a module by the image in its file. -/
abbrev Loader := String → Option Library

/-- The factories of a table, each once, in the order of their first rows. -/
def Descriptor.factories (table : List Descriptor) : List ItemExport :=
  table.foldl (fun found row => match row.items? with
    | some items =>
      if items.canDestroy && !found.any (·.identity = items.identity) then found ++ [items] else found
    | none => found) []

end Calibration
