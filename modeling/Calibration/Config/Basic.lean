/-
# Configurations

A configuration names the directories with plugin modules and plans chains. A plan says which plugins a chain
runs, on which dict, how often, and what happens when one of them fails.
-/

import Calibration.Chain.Basic
import Calibration.Text.Json

namespace Calibration

open Text (Json)

/-- The plan of a chain. -/
structure ChainPlan where
  name : String
  /-- The name of the dict that the chain works on. -/
  dict : String := "default"
  /-- The names of the plugins, in the order of the run. -/
  plugins : List String := []
  /-- Seconds between runs; `0` is never, and a negative period is once. -/
  period : Int := 0
  isHidden : Bool := false
  policy : FailurePolicy := .stopOnFailure
deriving DecidableEq, Repr

/-- The plan in records. -/
def ChainPlan.json (p : ChainPlan) : Json :=
  .object [("name", .string p.name), ("dict", .string p.dict), ("plugins", .strings p.plugins),
    ("period", .number p.period), ("hidden", .bool p.isHidden), ("failure_policy", .string p.policy.label)]

/-- A configuration. -/
structure Config where
  /-- The directories with plugin modules, in the order in which they are searched. -/
  pluginDirs : List String := []
  chains : List ChainPlan := []
deriving DecidableEq, Repr

namespace Config

/-- The first plan with a name. -/
def chain? (c : Config) (name : String) : Option ChainPlan := c.chains.find? (·.name = name)

/-- The configuration in records. -/
def json (c : Config) : Json :=
  .object [("registry", .object [("plugin_dirs", .strings c.pluginDirs)]),
    ("chains", .array (c.chains.map ChainPlan.json))]

end Config
end Calibration
