/-
# Faults of plugins
-/

import Calibration.Dict.Basic

namespace Calibration

/-- Why a step of a plugin fails. -/
inductive PluginError where
  | config (message : String)
  | file (fault : FileError)
  | missingDependency (name : String)
  | missingKey (key : String)
  | typeMismatch (key expected found : String)
  | hardware (message : String)
  | cancelled
  | panicked
  | dict (fault : DictError)
  | custom (message : String)
deriving DecidableEq, Repr

def PluginError.message : PluginError → String
  | config message => "Configuration error: " ++ message
  | file fault => "IO error: " ++ fault.message
  | missingDependency name => "Missing dependency: " ++ name
  | missingKey key => "Missing key: " ++ key
  | typeMismatch key expected found =>
    "Type mismatch for '" ++ key ++ "': expected " ++ expected ++ ", found " ++ found
  | hardware message => "Hardware unavailable: " ++ message
  | cancelled => "Cancelled"
  | panicked => "Plugin panicked"
  | dict fault => "Dict error: " ++ fault.message
  | custom message => message

/-- The item is of the host's own type with the tag; an item of a plugin's type never is. -/
def Item.isOf (item : Item) (tag : String) : Bool :=
  match item with
  | .custom _ => false
  | _ => item.tag = tag

/-- The item at a key, which must be of the type with the tag. -/
def Dict.require (d : Dict) (tag key : String) : Except PluginError Item :=
  match d.get? key with
  | none => .error (.missingKey key)
  | some item => if item.isOf tag then .ok item else .error (.typeMismatch key tag item.tag)

end Calibration
