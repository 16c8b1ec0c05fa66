/-
# Configurations from TOML trees

Every value has the one type that its key asks for, and keys of other names do not matter. A record may be a
table, or an array of its fields in order without the keys; an array may end early, and what it has too much does
not matter. Fields that are missing have their default, and only the name of a chain has none.
-/

import Calibration.Config.Basic
import Calibration.Toml.Document

namespace Calibration
namespace Toml
namespace Node

/-- A text. -/
def string? : Node → Option String
  | string s => some s
  | _ => none

/-- An integer. -/
def integer? : Node → Option Int
  | integer n => some n
  | _ => none

/-- A truth value. -/
def boolean? : Node → Option Bool
  | boolean b => some b
  | _ => none

/-- The values of a list: an array, or the rows that headers have named. -/
def list? : Node → Option (List Node)
  | array values => some values
  | tables rows => some (rows.map (table .header))
  | _ => none

/-- The values under some keys: by name in a table, in the order of the keys in a list. A time is a record
without any of the keys. -/
def fields? (keys : List String) : Node → Option (List (Option Node))
  | table _ entries => some (keys.map (Assoc.find? entries))
  | time => some (keys.map fun _ => none)
  | node => (list? node).map fun values => (List.range keys.length).map (values[·]?)

/-- A field that may be missing. -/
def readOr {α : Type} (default : α) (read : Node → Option α) : Option Node → Option α
  | none => some default
  | some node => read node

/-- A list of values of one type. -/
def listOf? {α : Type} (read : Node → Option α) (node : Node) : Option (List α) :=
  (list? node).bind (List.mapM read)

/-- Nothing is in the array or table. -/
def isVoid : Node → Bool
  | array values => values.isEmpty
  | table _ entries => entries.isEmpty
  | _ => false

/-- The name of a choice: a text, or the only key of a table, with nothing under it. -/
def choice? : Node → Option String
  | string s => some s
  | table _ [(key, node)] => if node.isVoid then some key else none
  | _ => none

end Node
end Toml

open Toml (Node)

/-- The policy with a label. -/
def FailurePolicy.ofLabel? (label : String) : Option FailurePolicy :=
  [stopOnFailure, continueOnFailure].find? (·.label = label)

/-- Reads the plan of a chain. -/
def ChainPlan.ofNode? (node : Node) : Option ChainPlan := do
  match ← node.fields? ["name", "dict", "plugins", "period", "hidden", "failure_policy"] with
  | [name, dict, plugins, period, isHidden, policy] =>
    let name ← name
    return {
      name := ← name.string?
      dict := ← Node.readOr "default" Node.string? dict
      plugins := ← Node.readOr [] (Node.listOf? Node.string?) plugins
      period := ← Node.readOr 0 Node.integer? period
      isHidden := ← Node.readOr false Node.boolean? isHidden
      policy := ← Node.readOr .stopOnFailure (fun n => n.choice?.bind FailurePolicy.ofLabel?) policy }
  | _ => none

namespace Config

/-- Reads the section on plugins. -/
def pluginDirs? (node : Node) : Option (List String) := do
  match ← node.fields? ["plugin_dirs"] with
  | [dirs] => Node.readOr [] (Node.listOf? Node.string?) dirs
  | _ => none

/-- Reads a configuration. -/
def ofNode? (node : Node) : Option Config := do
  match ← node.fields? ["registry", "chains"] with
  | [registry, chains] =>
    return {
      pluginDirs := ← Node.readOr [] pluginDirs? registry
      chains := ← Node.readOr [] (Node.listOf? ChainPlan.ofNode?) chains }
  | _ => none

/-- Reads a document. -/
def read? (text : String) : Option Config :=
  (Toml.read? text).bind fun entries => ofNode? (.table .header entries)

end Config
end Calibration
