/-
# A registry that checks each of its steps

A registry keeps what it knows in arrays that grow at different times: the handles of the plugins with each plugin that
is loaded, the groups that plugins need with each dependency check, the marks of a check only while it is under way.  A
group is a list of places in the other arrays, recorded in one operation and read in later ones.  Here the operations
are told on these arrays, with every access and every step of a lifecycle checked: an access out of range, a step that a
lifecycle does not allow and a loop that does not end are mishaps, and end the operation (`Mishap`).

The operations are `add`, `checkDeps` and `postCheckDeps`.  What they do is not new: `Roster` keeps the groups of a
plugin in its entry and has a reply to every access.
-/

import Calibration.BringUp.Late
import Calibration.Proofs.BringUp.Progress
import Calibration.Proofs.Roster.LocalCalls

namespace Calibration

/-- What must not happen inside a registry. -/
inductive Mishap where
  | outOfRange (place length : Nat)
  | illegal (fault : LifecycleError)
  | endless
deriving DecidableEq, Repr

namespace Task

variable {S : Signature} {ε α σ : Type}

/-- Runs a program with a host that may fail to serve a request. -/
def tryRun (serve : (q : S.Request) → σ → Except ε (S.Reply q × σ)) : Task S α → σ → Except ε (α × σ)
  | done value, s => .ok (value, s)
  | ask q next, s => do
    let (reply, s) ← serve q s
    (next reply).tryRun serve s

end Task

namespace Guarded

open BringUp (Mark)
open BringUp.Check (initialMark verdict)

/-- A result, unless there is a mishap. -/
abbrev Checked := Except Mishap

variable {α σ : Type}

/-! ### Accesses and steps -/

/-- The element at a place. -/
def lookUp (l : List α) (i : Nat) : Checked α :=
  match l[i]? with
  | some a => .ok a
  | none => .error (.outOfRange i l.length)

/-- Changes the element at a place. -/
def update (l : List α) (i : Nat) (f : α → Checked α) : Checked (List α) := do
  let a ← f (← lookUp l i)
  return l.set i a

/-- A step of the lifecycle. -/
def advance (h : Handle) (next : Lifecycle) : Checked Handle :=
  match h.transition next with
  | (.ok (), h) => .ok h
  | (.error fault, _) => .error (.illegal fault)

/-- Calls code that only tends its own plugin. -/
def invoke (h : Handle) (code : LocalCode α) : Except PluginError α × Handle :=
  h.invoke fun h => ((code.ending h.memory).1, { h with memory := (code.ending h.memory).2 })

/-- Calls the code of a phase; the plugin goes on or is rejected, as its code ends. -/
def attempt (h : Handle) (code : LocalCode Unit) (stage : BringUpStage) (next : Lifecycle) : Checked Handle :=
  match invoke h code with
  | (.ok _, h) => advance h next
  | (.error e, h) => advance h (.rejected stage e.message)

/-- The first group of which all members are rejected. -/
def failedGroup? (groups : List (List Nat)) (isRejected : Nat → Checked Bool) : Checked (Option (List Nat)) :=
  groups.findM? fun group => if group.isEmpty then return false else group.allM isRejected

/-- The reason of a rejection that a failed group brings about. -/
def dependencyReason (handles : List Handle) (group : List Nat) : Checked String := do
  let names ← group.mapM fun j => return (← lookUp handles j).name
  return "Dependency rejected: " ++ String.intercalate ", " names

/-! ### Loops -/

/-- One round over some places; tells whether anything has changed. -/
def round (step : σ → Nat → Checked (Option σ)) : List Nat → σ → Checked (Bool × σ)
  | [], s => .ok (false, s)
  | i :: rest, s => do
    match ← step s i with
    | some s => return (true, (← round step rest s).2)
    | none => round step rest s

/-- Rounds until one changes nothing. -/
def rounds (step : σ → Nat → Checked (Option σ)) (places : List Nat) : Nat → σ → Checked σ
  | 0, _ => .error .endless
  | k + 1, s => do
    match ← round step places s with
    | (true, s) => rounds step places k s
    | (false, s) => return s

/-! ### The dependency check -/

/-- A dependency check under way: the plugins, their marks, and the groups that they need. -/
structure Walk where
  handles : List Handle
  marks : List Mark
  requires : List (List (List Nat))

namespace Walk

def setMark (w : Walk) (i : Nat) (m : Mark) : Checked Walk :=
  return { w with marks := ← update w.marks i fun _ => .ok m }

/-- Records a group that a plugin needs. -/
def record (w : Walk) (i : Nat) (group : List Nat) : Checked Walk :=
  return { w with requires := ← update w.requires i fun groups => .ok (groups ++ [group]) }

def setHandle (w : Walk) (i : Nat) (f : Handle → Handle) : Checked Walk :=
  return { w with handles := ← update w.handles i fun h => .ok (f h) }

/-- The places of the plugins that match a request of the plugin at a place: all others with the property. -/
def candidates (w : Walk) (asker : Nat) (property : PluginView → Bool) : List Nat :=
  (List.range w.handles.length).filter fun j => j != asker && w.handles[j]?.any (property ·.view)

/-- The first of some plugins that passes its check. -/
def firstPassing (pass : Nat → Walk → Checked (Bool × Walk)) : List Nat → Walk → Checked (Option Nat × Walk)
  | [], w => .ok (none, w)
  | j :: rest, w => do
    match ← pass j w with
    | (true, w) => return (some j, w)
    | (false, w) => firstPassing pass rest w

/-- Those of some plugins that pass their checks. -/
def allPassing (pass : Nat → Walk → Checked (Bool × Walk)) : List Nat → Walk → Checked (List Nat × Walk)
  | [], w => .ok ([], w)
  | j :: rest, w => do
    let (passed, w) ← pass j w
    let (more, w) ← allPassing pass rest w
    return (if passed then j :: more else more, w)

/-- Serves the requests of a plugin. -/
def serve (pass : Nat → Walk → Checked (Bool × Walk)) (asker : Nat) :
    (q : needSignature.noting.Request) → Walk → Checked (needSignature.noting.Reply q × Walk)
  | .note _, w => .ok ((), w)
  | .other (.require name), w => do
    match ← firstPassing pass (w.candidates asker fun p => p.name = name) w with
    | (some j, w) =>
      let w ← w.record asker [j]
      return (.ok (← lookUp w.handles j).view, w)
    | (none, w) => return (.error (.missingDependency name), w)
  | .other (.requireAttributes attributes), w => do
    let (group, w) ← allPassing pass (w.candidates asker (·.hasAttributes attributes)) w
    if group.isEmpty then return (.error (.missingDependency (String.intercalate " + " attributes)), w)
    else
      let views ← group.mapM fun j => return (← lookUp w.handles j).view
      return (.ok views, ← w.record asker group)

/-- Calls the dependency check of a plugin; `pass` checks the plugins that it asks for. -/
def callCheck (pass : Nat → Walk → Checked (Bool × Walk)) (i : Nat) (w : Walk) :
    Checked (Except PluginError Unit × Walk) := do
  let h ← lookUp w.handles i
  let program := (h.plugin.checkDeps (w.handles.map (·.view))).run.run h.memory
  let ((result, memory), w) ← program.tryRun (serve pass i) (← w.setHandle i Handle.enter)
  let kept : Handle := { ← lookUp w.handles i with memory }
  let (reply, h) := kept.leave result
  return (reply, ← w.setHandle i fun _ => h)

/-- Checks the plugin at a place, if that has not been done; tells whether it passes as far as is known. -/
def pass : Nat → Nat → Walk → Checked (Bool × Walk)
  | depth, i, w => do
    match ← lookUp w.marks i with
    | .accepted | .inProgress => return (true, w)
    | .rejected _ => return (false, w)
    | .pending =>
      match depth with
      | 0 => .error .endless
      | depth + 1 =>
        match ← callCheck (pass depth) i (← w.setMark i .inProgress) with
        | (.ok _, w) => return (true, ← w.setMark i .accepted)
        | (.error e, w) => return (false, ← w.setMark i (.rejected e.message))

/-- Every plugin checked, in load order. -/
def askAll (w : Walk) : Checked Walk :=
  (List.range w.handles.length).foldlM (fun w i => return (← pass (w.marks.count .pending) i w).2) w

/-- Rejects the plugin at a place, if it is accepted and one of its groups has failed. -/
def withdraw (w : Walk) (i : Nat) : Checked (Option Walk) := do
  if (← lookUp w.marks i) = .accepted then
    match ← failedGroup? (← lookUp w.requires i) fun j => return (← lookUp w.marks j).isRejected with
    | some group => return some (← w.setMark i (.rejected (← dependencyReason w.handles group)))
    | none => return none
  else return none

/-- The handles with the result of the check: who was pending at its beginning enters the state of its mark. -/
def finish (pending : List Bool) (w : Walk) : Checked (List Handle) :=
  (List.range w.handles.length).foldlM (fun handles i => do
    if ← lookUp pending i then
      let mark ← lookUp w.marks i
      update handles i (advance · (verdict mark))
    else return handles) w.handles

end Walk

/-! ### The registry -/

/-- The plugins in load order, and the groups that they need as far as they were through a dependency check. -/
structure Registry where
  handles : List Handle := []
  requires : List (List (List Nat)) := []

namespace Registry

/-- A plugin that has tended itself on loading. -/
def tend (plugin : Plugin) : Checked Handle :=
  attempt (.ofPlugin plugin) plugin.postLoad .postLoad .postLoaded

/-- The registry with a plugin more. -/
def add (g : Registry) (plugin : Plugin) : Checked Registry :=
  return { g with handles := g.handles ++ [← tend plugin] }

/-- The groups of so many plugins, none for those who have no place yet. -/
def resized (requires : List (List (List Nat))) (size : Nat) : List (List (List Nat)) :=
  requires.take size ++ List.replicate (size - requires.length) []

/-- Has every plugin checked that has not been through the dependency check yet. -/
def checkDeps (g : Registry) : Checked Registry := do
  let marks := g.handles.map fun h => initialMark h.state
  let size := g.handles.length
  let w ← Walk.askAll ⟨g.handles, marks, resized g.requires size⟩
  let w ← rounds Walk.withdraw (List.range size) (size + 1) w
  return { handles := ← w.finish (marks.map fun m => decide (m = .pending)), requires := w.requires }

/-- The late check of the plugin at a place, if it has passed the dependency check. -/
def checkLate (handles : List Handle) (i : Nat) : Checked (List Handle) :=
  update handles i fun h =>
    if h.state = .depsChecked then
      attempt h (h.plugin.postCheckDeps (handles.map (·.view))) .postCheckDeps .depsFinalized
    else .ok h

/-- Rejects the plugin at a place, if it has passed all phases and one of its groups has failed. -/
def withdrawLate (requires : List (List (List Nat))) (handles : List Handle) (i : Nat) :
    Checked (Option (List Handle)) := do
  if (← lookUp handles i).state = .depsFinalized then
    match ← failedGroup? (requires[i]?.getD []) fun j => return (← lookUp handles j).state.isRejected with
    | some group =>
      let reason ← dependencyReason handles group
      return some (← update handles i (advance · (.rejected .postCheckDeps reason)))
    | none => return none
  else return none

/-- Who has passed all phases becomes runnable. -/
def release (handles : List Handle) (i : Nat) : Checked (List Handle) :=
  update handles i fun h => if h.state = .depsFinalized then advance h .runnable else .ok h

/-- The late check of every plugin that has passed the dependency check; the survivors become runnable. -/
def postCheckDeps (g : Registry) : Checked Registry := do
  let places := List.range g.handles.length
  let handles ← places.foldlM checkLate g.handles
  let handles ← rounds (withdrawLate g.requires) places (places.length + 1) handles
  return { g with handles := ← places.foldlM release handles }

end Registry
end Guarded
end Calibration
