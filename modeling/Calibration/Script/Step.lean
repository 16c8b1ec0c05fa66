/-
# Steps of scripted plugins

A script tells a plugin what to do, step by step, in each stage of its life. Some steps can stand in every stage;
others need what only some stages offer. Looking for plugins is done on a list of what is known of them.
-/

import Calibration.Plugin.Code

namespace Calibration
namespace Script

/-- A question about a list of plugins. -/
inductive Query where
  | byName (name : String)
  | byAttribute (name : String)
  | byAttributes (names : List String)
  | byIndex (i : Nat)
  | firstRunnable (name : String)

namespace Query

/-- The question in notes. -/
def label : Query → String
  | .byName _ => "query_name"
  | .byAttribute _ => "query_attr"
  | .byAttributes _ => "query_attrs"
  | .byIndex _ => "query_index"
  | .firstRunnable _ => "first_runnable"

/-- Names with commas between them. -/
def listed (plugins : List PluginView) : String := String.intercalate "," (plugins.map (·.name))

/-- A name, or a dash. -/
def optional (plugin? : Option PluginView) : String := (plugin?.map (·.name)).getD "-"

/-- The answer in notes. -/
def answer (plugins : List PluginView) : Query → String
  | .byName name => listed (plugins.filter (·.name = name))
  | .byAttribute name => listed (plugins.filter (·.hasAttribute name))
  | .byAttributes names => listed (plugins.filter (·.hasAttributes names))
  | .byIndex i => optional plugins[i]?
  | .firstRunnable name => optional (PluginView.firstRunnable? plugins name)

end Query

/-- What a step of a script does. -/
inductive Action where
  | fail (error : PluginError)
  | failNth (n : Int) (error : PluginError)
  | panic
  | log (text : String)
  | query (q : Query)
  | require (name : String) (isOptional : Bool)
  | requireAttributes (names : List String) (isOptional : Bool)
  | cancel
  | poll
  | cancelled
  | set (key : String) (item : Item)
  | remove (key : String)
  | need (tag key : String)
  | panicLocked
  | newDict (name : String)
  | clearDict (name : String)
  | copy (target : String) (keys : List String)
  | ui (key : String) (item : Item)
  | measure (name : String)
  | reading (value : Measurement)
  | unknown (name : String)

/-- A step of a script: what it does, and whether it looks for plugins in the registry rather than in the chain. -/
structure Step where
  action : Action
  inRegistry : Bool := false

namespace Action

/-- The name of an action in scripts. -/
def label : Action → String
  | fail _ => "fail"
  | failNth .. => "fail_nth"
  | panic => "panic"
  | log _ => "log"
  | query q => q.label
  | require .. => "require"
  | requireAttributes .. => "require_attrs"
  | cancel => "cancel"
  | poll => "poll"
  | cancelled => "cancelled"
  | set .. => "set"
  | remove _ => "remove"
  | need .. => "need"
  | panicLocked => "panic_locked"
  | newDict _ => "new_dict"
  | clearDict _ => "clear_dict"
  | copy .. => "copy"
  | ui .. => "ui"
  | measure _ => "measure"
  | reading _ => "xyz"
  | unknown name => name

variable {S : Signature} {σ : Type}

/-- An action that can stand in every stage, in the plugin with a name, on the call of the stage with a number;
none if it is of another kind. -/
def common? (name : String) (count : Int) : Action → Option (Code S σ Unit)
  | fail e => some (.fail e)
  | failNth n e => some (if count = n then .fail e else pure ())
  | panic => some .panic
  | log text => some (.note (name ++ ":" ++ text))
  | _ => none

/-- An action that looks for plugins. One that a stage does not know finds its own name. -/
def lookUp (name : String) (plugins : List PluginView) : Action → Code S σ Unit
  | query q => .note (name ++ ":" ++ q.label ++ "=" ++ q.answer plugins)
  | action => .note (name ++ ":" ++ action.label ++ "=" ++ action.label)

end Action
end Script
end Calibration
