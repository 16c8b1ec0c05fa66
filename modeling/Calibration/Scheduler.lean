/-
# The scheduler

In each round the scheduler looks at its chains in order and runs those that are due. How a run ends makes no
difference to it: a chain counts as run from its start on.
-/

import Calibration.Host.Basic

namespace Calibration
namespace Scheduler

/-- The readings of the clock around one chain in one round: when the scheduler looks at it, and when the run
starts, if there is one. -/
structure Moment where
  look : Nat
  start : Nat
deriving DecidableEq, Repr

/-- Looks at a chain; tells whether it was run. -/
def visit (m : Moment) (h : Host) (c : Chain) : Bool × Host × Chain :=
  if c.isDue m.look h.second then
    let (_, h, c) := Host.run { h with clock := m.start } c
    (true, h, c)
  else (false, h, c)

/-- One round over some chains, with the moment of each by its place; gives the number of runs. -/
def round (timing : Nat → Moment) (h : Host) : List Chain → Nat × Host × List Chain
  | [] => (0, h, [])
  | c :: cs =>
    let (ran, h, c) := visit (timing 0) h c
    let (n, h, cs) := round (fun i => timing (i + 1)) h cs
    (n + (if ran then 1 else 0), h, c :: cs)

/-- A number of rounds, with the moments of each by its place. -/
def rounds (timing : Nat → Nat → Moment) : Nat → Host → List Chain → Host × List Chain
  | 0, h, cs => (h, cs)
  | n + 1, h, cs =>
    let (_, h, cs) := round (timing 0) h cs
    rounds (fun k => timing (k + 1)) n h cs

/-- Some chain is run by the scheduler at all. -/
def hasWork (cs : List Chain) : Bool := cs.any (·.period ≠ 0)

end Scheduler
end Calibration
