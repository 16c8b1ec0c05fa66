/-
# Sample modules

The modules that can be found in module files, by the names of their images: one with the demonstration plugins,
one whose plugins fail in different stages, and some that cannot be loaded.
-/

import Calibration.Demo.SimSensor
import Calibration.Demo.WhitePoint
import Calibration.Registry.Module

namespace Calibration
namespace Sample

/-- The item functions of the demonstration module. -/
def readings : ItemExport := { identity := "readings", factory := .readings }

/-- The demonstration plugins. -/
def demo : List Descriptor :=
  [{ name := "SimSensor", major := 0, minor := 1, plugin? := some SimSensor.plugin, items? := some readings },
   { name := "WhitePoint", major := 0, minor := 1, plugin? := some WhitePoint.plugin, items? := some readings }]

/-- A lamp that cannot be switched on. -/
def faulty : Plugin where
  name := "Faulty"
  attributes := ["Lamp", "Usb"]
  run _ := .fail (.hardware "lamp off")
  postRun _ := .fail (.custom "cannot park")

/-- A plugin that does not want to be loaded. -/
def shy : Plugin where
  name := "Shy"
  postLoad := .fail (.config "not today")

/-- A plugin that needs what nobody has. -/
def needy : Plugin where
  name := "Needy"
  checkDeps _ := do let _plugin ← .ofExcept (← NeedCode.require "Nothing")

/-- A plugin that gives up late, having counted the lamps. -/
def late : Plugin where
  name := "Late"
  postCheckDeps plugins :=
    .fail (.custom ("saw " ++ toString (plugins.countP (·.hasAttribute "Lamp")) ++ " lamps"))

/-- A plugin that cancels the chain it runs in. -/
def canceller : Plugin where
  name := "Canceller"
  run _ := ChainCode.cancel

/-- A plugin that stops by itself. -/
def quitter : Plugin where
  name := "Quitter"
  preRun _ := .fail .cancelled

/-- Plugins that fail in different stages. -/
def flaky : List Descriptor :=
  [faulty, shy, needy, late, canceller].map (fun p => ⟨p.name, 2, 7, some p, none⟩) ++
    [⟨"Misnamed", 2, 7, some quitter, none⟩]

/-- Opens the sample modules. What is no module at all cannot be opened. -/
def open? : Loader
  | "demo" => some { table? := some demo }
  | "flaky" => some { table? := some flaky }
  | "ghost" => some { table? := some [⟨"Ghost", 1, 0, none, none⟩] }
  | "version2" => some { version? := some 2, table? := some demo }
  | "empty" => some { table? := some [] }
  | "nulltable" => some { table? := some [] }
  | "noregister" => some { table? := none }
  | "noversion" => some { version? := none, table? := some demo }
  | _ => none

end Sample
end Calibration
