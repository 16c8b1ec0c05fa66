/-
# The late check

Once all dependency checks are settled, each plugin that passed may look around once more and give up. A late
rejection takes down those who need the plugin; the rest become runnable.
-/

import Calibration.BringUp.Check

namespace Calibration
namespace Roster

open BringUp (Stake dependencyReason settle)

/-- The late check of the plugin at a place, if it has passed the dependency check. -/
def checkLate (r : Roster) (i : Nat) : Roster :=
  if (r.handle i).state = .depsChecked then
    match r.callLocal i (.bringUp .postCheckDeps) ((r.handle i).plugin.postCheckDeps r.views) with
    | (.ok _, r) => r.move i .depsFinalized
    | (.error e, r) => r.move i (.rejected .postCheckDeps e.message)
  else r

/-- What a plugin has at stake when late rejections are settled. -/
def lateStake (e : Entry) : Stake where
  standing := match e.handle.state with
    | .depsFinalized => .up
    | .rejected .. => .down
    | _ => .aside
  groups := e.needs

/-- Late rejections take down those who need the rejected. -/
def settleLate (r : Roster) : Roster :=
  let stakes := settle (r.entries.map lateStake)
  (List.range r.size).foldl (fun r' i => match stakes[i]?.bind (·.cause) with
    | some group => r'.move i (.rejected .postCheckDeps (dependencyReason r group))
    | none => r') r

/-- Who has passed all phases becomes runnable. -/
def release (r : Roster) : Roster :=
  (List.range r.size).foldl (fun r i =>
    if (r.handle i).state = .depsFinalized then r.move i .runnable else r) r

/-- The late check of every plugin that has passed the dependency check; the survivors become runnable. -/
def postCheckDeps (r : Roster) : Roster :=
  ((List.range r.size).foldl checkLate r).settleLate.release

/-- Both dependency phases. -/
def bringUp (r : Roster) : Roster := r.checkDeps.postCheckDeps

/-- The number of runnable plugins. -/
def runnableCount (r : Roster) : Nat := r.entries.countP (·.handle.view.isRunnable)

end Roster
end Calibration
