/-
# The white point of a display

The plugin chooses a sensor when it is brought up, and on every run measures with the first runnable plugin of that
sensor's name. It writes the reading and its chromaticity together, or nothing.
-/

import Calibration.Plugin.Basic

namespace Calibration
namespace WhitePoint

/-- Receives the reading. -/
def readingKey : String := "WhitePoint::xyz"

/-- Receives the chromaticity of the reading. -/
def chromaticityKey : String := "WhitePoint::xy"

/-- The name of the sensor that the plugin has chosen. -/
def sensor? (memory : Dict) : Option String := memory.getString? "sensor"

/-- Chooses the first sensor. -/
def checkDeps (_ : List PluginView) : NeedCode Unit := do
  let sensors ← .ofExcept (← NeedCode.requireAttributes [Attribute.sensor])
  match sensors with
  | s :: _ => modify (·.set "sensor" (.string s.name))
  | [] => modify (·.erase "sensor")

/-- A reading of the chosen sensor. -/
def measure (name : String) : ChainCode Measurement := do
  match ← ChainCode.measure name with
  | some reading => .ofExcept reading
  | none => .fail (.missingDependency name)

/-- Measures, and writes the result into the chain's dict. -/
def run (ctx : RunContext) : ChainCode Unit := do
  match sensor? (← ChainCode.memory) with
  | none => .fail (.missingDependency Attribute.sensor)
  | some name =>
    let m ← measure name
    match m.chromaticity? with
    | none => .fail (.hardware "no light on the sensor")
    | some (x, y) =>
      let _shown ← ChainCode.showItem "WhitePoint::status" (.string ("x=" ++ x.fixed 4 ++ " y=" ++ y.fixed 4))
      let r ← ctx.dict
      ChainCode.setItem r readingKey (.xyz m)
      ChainCode.setItem r chromaticityKey (.doubleArray [x, y])

/-- The plugin. -/
def plugin : Plugin where
  name := "WhitePoint"
  checkDeps
  run

end WhitePoint
end Calibration
