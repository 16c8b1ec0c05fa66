/-
# The dependency check

Each plugin that has tended itself is asked for the plugins that it needs. A request has the plugins asked for
checked first; one that is being checked already, further up in a circle, is taken to pass. Each request that is
met records its group. In the end the rejections are settled along the recorded groups, so that all plugins of a
circle come to the same end.
-/

import Calibration.BringUp.Settle
import Calibration.Roster

namespace Calibration
namespace BringUp

/-- How far the check of a plugin is. -/
inductive Mark where
  | pending
  | inProgress
  | accepted
  | rejected (reason : String)
deriving DecidableEq, Repr

/-- A check under way. -/
structure Check where
  roster : Roster
  marks : List Mark

namespace Check

/-- The mark that a plugin has before the check: who has passed this phase keeps the result. -/
def initialMark (state : Lifecycle) : Mark :=
  match state with
  | .postLoaded => .pending
  | .depsChecked | .depsFinalized | .runnable => .accepted
  | .loaded => .rejected "not loaded"
  | .rejected _ reason => .rejected reason

/-- The check before anyone is asked. -/
def start (r : Roster) : Check := ⟨r, r.entries.map fun e => initialMark e.handle.state⟩

/-- The mark at a place. -/
def mark (c : Check) (i : Nat) : Mark := c.marks[i]?.getD .accepted

def setMark (c : Check) (i : Nat) (m : Mark) : Check := { c with marks := c.marks.set i m }

/-- The number of plugins that were not asked yet. -/
def pendingCount (c : Check) : Nat := c.marks.count .pending

/-- Records a group that a plugin needs. -/
def addNeed (c : Check) (i : Nat) (group : List Nat) : Check :=
  { c with roster := c.roster.modify i fun e => { e with needs := e.needs ++ [group] } }

/-- The places of the plugins that match a request of the plugin at a place: all others with the property. -/
def candidates (c : Check) (asker : Nat) (property : PluginView → Bool) : List Nat :=
  (List.range c.roster.size).filter fun j => j != asker && property (c.roster.handle j).view

/-- The first of some plugins that passes its check; those behind it are not asked. -/
def firstPassing (pass : Nat → Check → Bool × Check) : List Nat → Check → Option Nat × Check
  | [], c => (none, c)
  | j :: rest, c =>
    match pass j c with
    | (true, c) => (some j, c)
    | (false, c) => firstPassing pass rest c

/-- Those of some plugins that pass their checks. -/
def allPassing (pass : Nat → Check → Bool × Check) : List Nat → Check → List Nat × Check
  | [], c => ([], c)
  | j :: rest, c =>
    let (passed, c) := pass j c
    let (more, c) := allPassing pass rest c
    (if passed then j :: more else more, c)

/-- Serves the requests of a plugin. A need for a name is met by the first plugin of the name that passes, a need
for attributes by all that have them and pass. -/
def serve (pass : Nat → Check → Bool × Check) (asker : Nat) :
    (q : needSignature.noting.Request) → Check → needSignature.noting.Reply q × Check
  | .note line, c => ((), { c with roster := c.roster.log (.noted line) })
  | .other (.require name), c =>
    match firstPassing pass (c.candidates asker fun p => p.name = name) c with
    | (some j, c) => (.ok (c.roster.handle j).view, c.addNeed asker [j])
    | (none, c) => (.error (.missingDependency name), c)
  | .other (.requireAttributes attributes), c =>
    let (group, c) := allPassing pass (c.candidates asker (·.hasAttributes attributes)) c
    if group.isEmpty then (.error (.missingDependency (String.intercalate " + " attributes)), c)
    else (.ok (group.map fun j => (c.roster.handle j).view), c.addNeed asker group)

/-- Calls the dependency check of a plugin; `pass` checks the plugins that it asks for. -/
def callCheck (pass : Nat → Check → Bool × Check) (i : Nat) (c : Check) : Except PluginError Unit × Check :=
  let step : Step := .bringUp .checkDeps
  let h := c.roster.handle i
  let ((result, memory), c) :=
    ((h.plugin.checkDeps c.roster.views).run.run h.memory).run (serve pass i)
      { c with roster := c.roster.enter i step }
  let (reply, roster) := c.roster.leave i step memory result
  (reply, { c with roster })

/-- Checks the plugin at a place, if that has not been done; tells whether it passes as far as is known. Each
check inside another finds one plugin less that was not asked, so that `depth`, their number at the beginning, is
enough. -/
def pass : Nat → Nat → Check → Bool × Check
  | depth, i, c =>
    match c.mark i with
    | .accepted | .inProgress => (true, c)
    | .rejected _ => (false, c)
    | .pending =>
      match depth with
      | 0 => (false, c)
      | depth + 1 =>
        match callCheck (pass depth) i (c.setMark i .inProgress) with
        | (.ok _, c) => (true, c.setMark i .accepted)
        | (.error e, c) => (false, c.setMark i (.rejected e.message))

/-- Every plugin checked, in load order. -/
def askAll (c : Check) : Check :=
  (List.range c.roster.size).foldl (fun c i => (pass c.pendingCount i c).2) c

/-- What a plugin has at stake when rejections are settled. -/
def stake (m : Mark) (needs : List (List Nat)) : Stake where
  standing := match m with
    | .accepted => .up
    | .rejected _ => .down
    | .pending | .inProgress => .aside
  groups := needs

/-- What the plugins have at stake. -/
def stakes (c : Check) : List Stake := List.zipWith (fun m e => stake m e.needs) c.marks c.roster.entries

end Check

/-- The reason of a rejection that a failed group brings about. -/
def dependencyReason (r : Roster) (group : List Nat) : String :=
  "Dependency rejected: " ++ String.intercalate ", " (group.map fun j => (r.handle j).name)

namespace Check

/-- The marks after rejections are settled. -/
def settled (c : Check) : Check :=
  { c with marks := List.zipWith (fun m s => match s.cause with
      | some group => .rejected (dependencyReason c.roster group)
      | none => m) c.marks (settle c.stakes) }

/-- The state that a mark leads to. -/
def verdict : Mark → Lifecycle
  | .accepted => .depsChecked
  | .rejected reason => .rejected .checkDeps reason
  | .pending | .inProgress => .rejected .checkDeps "dependency check failed"

/-- The roster with the result of the check: those who had not passed this phase enter the state of their marks. -/
def finish (c : Check) : Roster :=
  (List.range c.roster.size).foldl (fun r i =>
    if (r.handle i).state = .postLoaded then r.move i (verdict (c.mark i)) else r) c.roster

end Check
end BringUp

/-- Has every plugin checked that has not been through the dependency check yet. -/
def Roster.checkDeps (r : Roster) : Roster := (BringUp.Check.start r).askAll.settled.finish

end Calibration
