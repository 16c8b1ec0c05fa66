/-
# Chains

A chain is a row of runnable plugins that work on one dict, named in a table. It may be bound to the registry
that it was made from; then its plugins can look for others while that registry is open. A scheduler runs a chain
by its period.
-/

import Calibration.Roster

namespace Calibration

/-- What a chain does with the remaining plugins once one has failed to run. -/
inductive FailurePolicy where
  | stopOnFailure
  | continueOnFailure
deriving DecidableEq, Repr

/-- The policy in records. -/
def FailurePolicy.label : FailurePolicy → String
  | stopOnFailure => "stop_on_failure"
  | continueOnFailure => "continue_on_failure"

/-- A chain; its plugins are places in the roster, and times are ticks of the host's clock. -/
structure Chain where
  name : String
  dictName : String
  table : TableRef
  isBound : Bool := false
  members : List Nat := []
  isCancelled : Bool := false
  /-- Seconds between runs; `0` is never, and a negative period is once. -/
  period : Int := 0
  lastStart : Option Nat := none
  isHidden : Bool := false
  policy : FailurePolicy := .stopOnFailure
deriving DecidableEq, Repr

namespace Chain

/-- The chain with a plugin at its end, which must be runnable. -/
def append (c : Chain) (r : Roster) (i : Nat) : Except ChainError Chain :=
  if (r.handle i).view.isRunnable then .ok { c with members := c.members ++ [i] }
  else .error (.notRunnable (r.handle i).name (r.handle i).state.text)

/-- The chain without plugins. -/
def clear (c : Chain) : Chain := { c with members := [] }

/-- Asks the current run to stop. -/
def cancel (c : Chain) : Chain := { c with isCancelled := true }

/-- What others see of the plugins of the chain. -/
def views (c : Chain) (r : Roster) : List PluginView := c.members.map fun i => (r.handle i).view

/-- A scheduler that looks at a time has to run the chain, by a clock with so many ticks in a second. -/
def isDue (c : Chain) (now : Nat) (second : Nat := 1000) : Bool :=
  if c.period < 0 then c.lastStart.isNone
  else if c.period = 0 then false
  else match c.lastStart with
    | none => true
    | some last => c.period.toNat * second ≤ now - last

/-- The chain in messages. -/
def debugText (c : Chain) (r : Roster) : String :=
  "PluginChain \x7b name: " ++ Text.quoted c.name ++ ", dict_name: " ++ Text.quoted c.dictName ++
    ", plugins: " ++ Text.quotedList ((c.views r).map (·.name)) ++
    ", period: " ++ String.ofList (Number.integerDigits c.period) ++
    ", hidden: " ++ (if c.isHidden then "true" else "false") ++ " \x7d"

end Chain
end Calibration
