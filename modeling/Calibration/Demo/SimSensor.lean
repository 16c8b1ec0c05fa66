/-
# A simulated colorimeter

The plugin sees a white display of the standard daylight D65, as bright as the chain's dict says.
-/

import Calibration.Plugin.Basic

namespace Calibration
namespace SimSensor

open Number (Binary64)

/-- Tells the luminance of the display, in candela per square metre. -/
def luminanceKey : String := "SimSensor::luminance"

/-- Receives the reading. -/
def readingKey : String := "SimSensor::reading"

/-- The number `digits / 10 ^ places`. -/
def decimal (digits places : Nat) : Binary64 := .ofDecimal false digits (-places)

/-- The reading of D65, chromaticity `0.3127`, `0.3290`, at a luminance. -/
def reading (luminance : Binary64) : Measurement :=
  let x := decimal 3127 4
  let y := decimal 329 3
  { x := x * luminance / y
    y := luminance
    z := (decimal 1 0 - x - y) * luminance / y }

/-- The luminance that the plugin remembers. -/
def luminance (memory : Dict) : Binary64 := (memory.getDouble? "luminance").getD .zero

/-- Takes the luminance from the chain's dict, if it is there. -/
def preRun (ctx : RunContext) : ChainCode Unit := do
  if let some r ← ctx.dict? then
    if let some value := (← ChainCode.readDict r).getDouble? luminanceKey then
      if value.isNegative then .fail (.config (luminanceKey ++ " must not be negative"))
      ChainCode.remember "luminance" (.double value)

/-- Writes a reading into the chain's dict, if it is there. -/
def run (ctx : RunContext) : ChainCode Unit := do
  if ← ChainCode.isCancelled then .fail .cancelled
  let m := reading (luminance (← ChainCode.memory))
  if let some r ← ctx.dict? then ChainCode.setItem r readingKey (.xyz m)

/-- Takes a reading. -/
def measure (isCancelled : Bool) : LocalCode Measurement := do
  if isCancelled then .fail .cancelled
  return reading (luminance (← get))

/-- The plugin, with a display of 120 candela per square metre. -/
def plugin : Plugin where
  name := "SimSensor"
  attributes := [Attribute.sensor]
  memory := ({} : Dict).set "luminance" (.double (decimal 120 0))
  preRun
  run
  sensor? := some measure

end SimSensor
end Calibration
