/-
# Rejections that take others down

Plugins need one another in groups: a group fails when all its members are down, and a plugin with a failed group
goes down with it. `settle` sweeps over the plugins in load order, again and again, until a sweep changes nothing.
-/

namespace Calibration
namespace BringUp

/-- Where a plugin stands while rejections are settled: it may still go down, is down, or takes no part. -/
inductive Standing where
  | up
  | down
  | aside
deriving DecidableEq, Repr

/-- One plugin: where it stands, the groups that it needs, and the failed group that took it down. -/
structure Stake where
  standing : Standing
  groups : List (List Nat)
  cause : Option (List Nat) := none
deriving DecidableEq, Repr

/-- The plugin at a place is down. -/
def isDown (stakes : List Stake) (i : Nat) : Bool := (stakes[i]?.map (·.standing)) = some .down

/-- All members of a group are down; a group without members cannot fail. -/
def hasFailed (stakes : List Stake) (group : List Nat) : Bool := !group.isEmpty && group.all (isDown stakes)

/-- The first group of a plugin that has failed. -/
def failedGroup? (stakes : List Stake) (stake : Stake) : Option (List Nat) :=
  stake.groups.find? (hasFailed stakes)

/-- Takes the plugin at a place down if it is up and one of its groups has failed. -/
def strike (stakes : List Stake) (i : Nat) : List Stake :=
  match stakes[i]? with
  | some stake =>
    if stake.standing = .up then
      match failedGroup? stakes stake with
      | some group => stakes.set i { stake with standing := .down, cause := some group }
      | none => stakes
    else stakes
  | none => stakes

/-- One sweep in load order; who goes down is down for those behind it. -/
def sweep (stakes : List Stake) : List Stake := (List.range stakes.length).foldl strike stakes

/-- The number of plugins that are up. -/
def upCount (stakes : List Stake) : Nat := stakes.countP (·.standing = .up)

/-- Sweeps until nothing changes. -/
def settle (stakes : List Stake) : List Stake :=
  let swept := sweep stakes
  if upCount swept < upCount stakes then settle swept else swept
termination_by upCount stakes

end BringUp
end Calibration
