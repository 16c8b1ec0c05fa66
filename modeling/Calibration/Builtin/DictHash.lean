/-
# Copying between dicts

The plugin that owns a table of dicts. When a chain runs it, it copies the entries that the chain's dict asks for
into the dict that it names. This is how plugins hand data to one another.
-/

import Calibration.Plugin.Basic

namespace Calibration
namespace DictHash

/-- Names the dict that receives the copies. -/
def targetKey : String := "DictHash::targetDict"

/-- Lists the keys to copy. -/
def keysKey : String := "DictHash::copyKeys"

/-- Copies what the chain's dict asks for. -/
def run (table : TableRef) (ctx : RunContext) : ChainCode Unit := do
  let source ← ctx.dict
  let d ← ChainCode.readDict source
  match d.getString? targetKey with
  | none => pure ()
  | some target =>
    let _copied ← ChainCode.onStore fun s =>
      s.copyInto source table target ((d.getStringArray? keysKey).getD [])

/-- The plugin for a table. -/
def plugin (table : TableRef) : Plugin where
  name := "DictHash"
  attributes := [Attribute.dictHash]
  run := run table

end DictHash
end Calibration
