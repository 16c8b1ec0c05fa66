/-
# Faults of the registry
-/

import Calibration.Chain.Error
import Calibration.Lifecycle
import Calibration.Plugin.Error

namespace Calibration

/-- Why modules cannot be loaded or chains not be put together. -/
inductive RegistryError where
  | libraryLoad
  | apiVersionMismatch (expected found : Nat)
  | noPlugins (path : String)
  | directoryNotFound (path : String)
  | notFound (name : String)
  | plugin (fault : PluginError)
  | lifecycle (fault : LifecycleError)
  | chain (fault : ChainError)
  | config (message : String)
  | file (fault : FileError)
deriving DecidableEq, Repr

def RegistryError.message : RegistryError → String
  | libraryLoad => "Failed to load plugin library"
  | apiVersionMismatch expected found =>
    s!"API version mismatch: lumen expects {expected}, module has {found}"
  | noPlugins path => "Module " ++ path ++ " exports no plugins"
  | directoryNotFound path => "Plugin directory not found: " ++ path
  | notFound name => "Plugin '" ++ name ++ "' not found"
  | plugin fault => "Plugin error: " ++ fault.message
  | lifecycle fault => "Lifecycle error: " ++ fault.message
  | chain fault => "Chain error: " ++ fault.message
  | config message => "Config error: " ++ message
  | file fault => "IO error: " ++ fault.message

end Calibration
