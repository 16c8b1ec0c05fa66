/-
# Keeping dicts

The plugin that keeps dicts in files and takes calibration records. The chain's dict says what to do, under keys
of this plugin: a file to load, a record to take and a file to save, in this order. What to do is settled before
the first step, so that a loaded file cannot change it.
-/

import Calibration.Dict.File
import Calibration.Plugin.Basic

namespace Calibration
namespace DataSavior

/-- What a dict asks for. -/
structure Commands where
  loadFile? : Option String
  recordName? : Option String
  recordKeys : List String
  saveFile? : Option String
  sourceDict? : Option String
deriving DecidableEq, Repr

/-- The commands in a dict. -/
def commands (d : Dict) : Commands where
  loadFile? := d.getString? "DataSavior::loadFile"
  recordName? := d.getString? "DataSavior::recordName"
  recordKeys := (d.getStringArray? "DataSavior::recordKeys").getD []
  saveFile? := d.getString? "DataSavior::saveFile"
  sourceDict? := d.getString? "DataSavior::sourceDict"

/-- The record of some entries of a dict. -/
def record (d : Dict) (name : String) (keys : List String) (now : Time.Timestamp) : Item :=
  .record name now (Assoc.copyFrom [] d.entries keys) d.scope

/-- Merges a file into a dict. -/
def load (ctx : RunContext) (r : DictRef) (path : String) : ChainCode Unit := do
  let s ← ChainCode.store
  let d ← .ofExcept (((s.dict r).load ctx.types s.files path).mapError .dict)
  ChainCode.onStore fun s => ((), s.setDict r d)

/-- Saves the dict with a name in a table, or else a dict at hand. -/
def save (table : TableRef) (r : DictRef) (source? : Option String) (path : String) : ChainCode Unit := do
  let s ← ChainCode.store
  let source ← match source? with
    | none => pure r
    | some name =>
      match s.find? table name with
      | some source => pure source
      | none => .fail (.config ("no dict '" ++ name ++ "'"))
  let result ← ChainCode.onStore fun s =>
    let (result, files) := (s.dict source).save s.files path
    (result, { s with files })
  .ofExcept (result.mapError .dict)

/-- Stops if the run is cancelled. -/
def checkpoint : ChainCode Unit := do
  if ← ChainCode.isCancelled then .fail .cancelled

/-- Loads, records and saves what the chain's dict asks for. -/
def run (table : TableRef) (ctx : RunContext) : ChainCode Unit := do
  let r ← ctx.dict
  let todo := commands (← ChainCode.readDict r)
  if let some path := todo.loadFile? then load ctx r path
  checkpoint
  if let some name := todo.recordName? then
    let d ← ChainCode.readDict r
    ChainCode.setItem r name (record d name todo.recordKeys ctx.now)
  checkpoint
  if let some path := todo.saveFile? then save table r todo.sourceDict? path

/-- The plugin for a table of dicts. -/
def plugin (table : TableRef) : Plugin where
  name := "DataSavior"
  attributes := [Attribute.persistence]
  run := run table

end DataSavior
end Calibration
