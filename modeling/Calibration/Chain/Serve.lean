/-
# What plugins of a running chain can ask

Code in a chain can cancel the run, show a value in the chain's user interface, and measure with a plugin of the
registry. Both forwarded calls reach code that only tends its own plugin, so that calls nest no deeper. A plugin
whose code runs already is left alone.
-/

import Calibration.Chain.Basic

namespace Calibration

namespace Roster

/-- Shows a value with the first of some plugins that has the attribute of user interfaces. Tells whether it was
shown; a failure stays with that plugin. -/
def showItem (r : Roster) (members : List Nat) (key : String) (item : Item) : Bool × Roster :=
  match members.find? fun i => (r.handle i).view.hasAttribute Attribute.ui with
  | none => (false, r)
  | some i =>
    match (r.handle i).isBusy, (r.handle i).plugin.ui? with
    | false, some shown =>
      match r.callLocal i .ui (shown key item) with
      | (.ok _, r) => (true, r)
      | (.error _, r) => (false, r)
    | _, _ => (false, r)

/-- Takes a reading with the plugin at a place, which must be able to measure. -/
def measure (r : Roster) (i : Nat) (isCancelled : Bool) : Except PluginError Measurement × Roster :=
  r.callLocal i .sensor (match (r.handle i).plugin.sensor? with
    | some sensor => sensor isCancelled
    | none => .fail (.missingDependency Attribute.sensor))

/-- Takes a reading with the first runnable plugin of a name, if there is one. To wait for a plugin that is busy
further up would never end; the reading is given up as a panic. -/
def measureWith (r : Roster) (name : String) (isCancelled : Bool) :
    Option (Except PluginError Measurement) × Roster :=
  match r.firstRunnable? name with
  | none => (none, r)
  | some i =>
    if (r.handle i).isBusy then (some (.error .panicked), r)
    else
      let (reading, r) := r.measure i isCancelled
      (some reading, r)

end Roster

/-- A chain run under way. -/
structure Run where
  roster : Roster
  store : Store
  isCancelled : Bool := false

namespace Run

/-- Serves the requests of code in a chain with some members; without a registry nothing is found to measure
with. -/
def serve (members : List Nat) (hasRegistry : Bool) :
    (q : chainSignature.noting.Request) → Run → chainSignature.noting.Reply q × Run
  | .note line, run => ((), { run with roster := run.roster.log (.noted line) })
  | .other .cancel, run => ((), { run with isCancelled := true })
  | .other .isCancelled, run => (run.isCancelled, run)
  | .other (.showItem key item), run =>
    let (shown, roster) := run.roster.showItem members key item
    (shown, { run with roster })
  | .other (.measure name), run =>
    if hasRegistry then
      let (reading, roster) := run.roster.measureWith name run.isCancelled
      (reading, { run with roster })
    else (none, run)

end Run
end Calibration
