/-
# Configuration files

A configuration is written with all its fields: the section on plugins, then a section for each chain. A file
that is missing is read as the default configuration.
-/

import Calibration.Config.Reading
import Calibration.Files.Tree
import Calibration.Registry.Error
import Calibration.Toml.Writing

namespace Calibration

/-- The section of a chain. -/
def ChainPlan.lines (p : ChainPlan) : List String :=
  ["[[chains]]",
    "name = " ++ Toml.stringText p.name,
    "dict = " ++ Toml.stringText p.dict,
    "plugins = " ++ Toml.arrayText p.plugins,
    "period = " ++ String.ofList (Number.integerDigits p.period),
    "hidden = " ++ (if p.isHidden then "true" else "false"),
    "failure_policy = " ++ Toml.stringText p.policy.label]

namespace Config

/-- The sections, an array without chains in front of all of them. -/
def sections (c : Config) : List (List String) :=
  (if c.chains.isEmpty then [["chains = []"]] else []) ++
    ["[registry]", "plugin_dirs = " ++ Toml.arrayText c.pluginDirs] :: c.chains.map ChainPlan.lines

/-- The document of a configuration. -/
def text (c : Config) : String :=
  String.intercalate "\n" (c.sections.map fun lines => String.join (lines.map (· ++ "\n")))

/-- Loads the configuration in the file at a path. -/
def load (files : Files) (path : String) : Except RegistryError Config :=
  if files.has (.ofText path) then
    match files.readText path with
    | .error e => .error (.file e)
    | .ok text =>
      match read? text with
      | none => .error (.config "TOML parse error")
      | some c => .ok c
  else .ok {}

/-- Saves the configuration at a path. -/
def save (c : Config) (files : Files) (path : String) : Except RegistryError Unit × Files :=
  let (result, files) := files.save path c.text
  (result.mapError .file, files)

end Config
end Calibration
