/-
# Plugins

A plugin has a name, attributes, a memory, code for each stage of its life, and possibly interfaces: it may show
values, measure light, or control a display. Code that a plugin does not bring does nothing and succeeds.
-/

import Calibration.Plugin.Code

namespace Calibration

/-- Control of a display by numbered settings. -/
structure DisplayControl where
  read : UInt8 → LocalCode UInt16
  write : UInt8 → UInt16 → LocalCode Unit

/-- A plugin as it is made, with the memory that it starts with. -/
structure Plugin where
  name : String
  attributes : List String := []
  memory : Dict := {}
  postLoad : LocalCode Unit := pure ()
  checkDeps : List PluginView → NeedCode Unit := fun _ => pure ()
  postCheckDeps : List PluginView → LocalCode Unit := fun _ => pure ()
  preRun : RunContext → ChainCode Unit := fun _ => pure ()
  run : RunContext → ChainCode Unit := fun _ => pure ()
  postRun : RunContext → ChainCode Unit := fun _ => pure ()
  /-- Shows a value under a key. -/
  ui? : Option (String → Item → LocalCode Unit) := none
  /-- Takes a reading; the flag tells that the run is cancelled. -/
  sensor? : Option (Bool → LocalCode Measurement) := none
  ddc? : Option DisplayControl := none

namespace Attribute

/-- The attribute of plugins that show values. -/
def ui : String := "Ui"

/-- The attribute of plugins that measure light. -/
def sensor : String := "Sensor"

/-- The attribute of plugins that control a display. -/
def ddc : String := "Ddc"

/-- The attribute of plugins that own the dict table. -/
def dictHash : String := "DictHash"

/-- The attribute of plugins that keep dicts in files. -/
def persistence : String := "Persistence"

end Attribute

end Calibration
