/-
# The table of item types

A host knows the built-in item types and those that plugins bring: each plugin or module may add a factory that
makes blank items for the type tags it knows. Built-in types come first, then the factories in the order in
which they were added.
-/

import Calibration.Item.Basic

namespace Calibration

/-- Makes a blank item for each type tag that it knows. -/
abbrev Factory := String → Option Item

namespace Factory

/-- Calibration records whose entries are read in a scope. -/
def records (scope : TypeScope) : Factory := fun tag =>
  if tag = "CalibRecord" then some (Item.blankRecord scope) else none

/-- Tristimulus readings. -/
def readings : Factory := fun tag => if tag = "Xyz" then some Item.blankXyz else none

/-- Copies of the first item with the tag. -/
def copies (items : List Custom) : Factory := fun tag => (items.find? (·.tag = tag)).map .custom

end Factory

/-- The factories in the order of registration, each with the name of the plugin or module it came from. -/
abbrev ItemTypes := List (String × Factory)

namespace ItemTypes

/-- One factory more. -/
def register (types : ItemTypes) (origin : String) (factory : Factory) : ItemTypes :=
  types ++ [(origin, factory)]

/-- The blank item of a type, as the host makes it. -/
def create? (types : ItemTypes) (tag : String) : Option Item :=
  (Item.builtin? tag).or (types.findSome? fun (_, factory) => factory tag)

/-- The blank item of a type, as a dict of the scope makes it. -/
def createIn? (types : ItemTypes) (scope : TypeScope) (tag : String) : Option Item :=
  match scope with
  | .builtin => Item.builtin? tag
  | .host => types.create? tag

end ItemTypes
end Calibration
