/-
# The lifecycle of a plugin

A plugin is loaded, passes three phases of bring-up one after the other and is then runnable. A plugin that is
not runnable yet may be rejected in any phase; a rejected plugin stays so.
-/

import Calibration.Text.Json

namespace Calibration

/-- A phase of bring-up. -/
inductive BringUpStage where
  | postLoad
  | checkDeps
  | postCheckDeps
deriving DecidableEq, Repr

namespace BringUpStage

/-- The phase in messages. -/
def name : BringUpStage → String
  | postLoad => "PostLoad"
  | checkDeps => "CheckDeps"
  | postCheckDeps => "PostCheckDeps"

/-- The phase in records. -/
def label : BringUpStage → String
  | postLoad => "post_load"
  | checkDeps => "check_deps"
  | postCheckDeps => "post_check_deps"

end BringUpStage

/-- How far a plugin has come. -/
inductive Lifecycle where
  | loaded
  | postLoaded
  | depsChecked
  | depsFinalized
  | runnable
  | rejected (stage : BringUpStage) (reason : String)
deriving DecidableEq, Repr

namespace Lifecycle

/-- The number of phases behind a plugin that is not rejected. -/
def rank? : Lifecycle → Option Nat
  | loaded => some 0
  | postLoaded => some 1
  | depsChecked => some 2
  | depsFinalized => some 3
  | runnable => some 4
  | rejected .. => none

/-- One phase forward, or out, unless the plugin is runnable or out already. -/
def canEnter (current next : Lifecycle) : Bool :=
  match current.rank?, next.rank? with
  | some n, some m => m == n + 1
  | some n, none => n < 4
  | none, _ => false

def isRejected : Lifecycle → Bool
  | rejected .. => true
  | _ => false

/-- The state in messages. -/
def text : Lifecycle → String
  | loaded => "Loaded"
  | postLoaded => "PostLoaded"
  | depsChecked => "DepsChecked"
  | depsFinalized => "DepsFinalized"
  | runnable => "Runnable"
  | rejected stage reason => "Rejected in " ++ stage.name ++ ": " ++ reason

/-- The state in the text of a handle. -/
def debugText : Lifecycle → String
  | rejected stage reason =>
    "Rejected \x7b stage: " ++ stage.name ++ ", reason: " ++ Text.quoted reason ++ " \x7d"
  | state => state.text

/-- The state in records. -/
def json : Lifecycle → Text.Json
  | loaded => .object [("state", .string "loaded")]
  | postLoaded => .object [("state", .string "post_loaded")]
  | depsChecked => .object [("state", .string "deps_checked")]
  | depsFinalized => .object [("state", .string "deps_finalized")]
  | runnable => .object [("state", .string "runnable")]
  | rejected stage reason =>
    .object [("state", .string "rejected"), ("stage", .string stage.label), ("reason", .string reason)]

end Lifecycle

/-- A step of the lifecycle that is not allowed. -/
structure LifecycleError where
  plugin : String
  current : String
  next : String
deriving DecidableEq, Repr

def LifecycleError.message (e : LifecycleError) : String :=
  "Plugin '" ++ e.plugin ++ "' cannot enter " ++ e.next ++ " from " ++ e.current

end Calibration
