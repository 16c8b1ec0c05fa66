/-
# The roster of plugins

The loaded plugins in load order, and a journal of every call into a plugin, every step that a plugin takes in its
lifecycle, and every line that a plugin notes. A plugin is named by its place in the roster, which it keeps for good.
A call marks the plugin as busy, runs its code, keeps the memory that the code leaves behind, and records how it
ended.
-/

import Calibration.Chain.Error
import Calibration.Handle
import Calibration.Registry.Origin

namespace Calibration

/-- An entry point of a plugin's code. -/
inductive Step where
  | bringUp (stage : BringUpStage)
  | chain (stage : RunStage)
  | ui
  | sensor
  | ddc
deriving DecidableEq, Repr

/-- An event of the journal. -/
inductive Event where
  | called (plugin : Nat) (step : Step)
  | returned (plugin : Nat) (step : Step) (fault : Option PluginError)
  | moved (plugin : Nat) (state : Lifecycle)
  | noted (line : String)
deriving DecidableEq, Repr

/-- A loaded plugin: where it came from, its version if it came from a module, and the groups of plugins that it
needs, each met by any one of its members. -/
structure Entry where
  handle : Handle
  origin : Origin
  version? : Option (Nat × Nat) := none
  needs : List (List Nat) := []

instance : Inhabited Entry := ⟨{ handle := default, origin := .static }⟩

/-- The loaded plugins and the journal. -/
structure Roster where
  entries : List Entry := []
  journal : List Event := []

namespace Roster

variable {α : Type}

def size (r : Roster) : Nat := r.entries.length

/-- The entry at a place. -/
def entry (r : Roster) (i : Nat) : Entry := r.entries[i]?.getD default

/-- The handle at a place. -/
def handle (r : Roster) (i : Nat) : Handle := (r.entry i).handle

/-- What others see of the plugins. -/
def views (r : Roster) : List PluginView := r.entries.map (·.handle.view)

/-- Changes the entry at a place. -/
def modify (r : Roster) (i : Nat) (f : Entry → Entry) : Roster := { r with entries := r.entries.modify i f }

/-- Changes the handle at a place. -/
def modifyHandle (r : Roster) (i : Nat) (f : Handle → Handle) : Roster :=
  r.modify i fun e => { e with handle := f e.handle }

/-- Writes an event into the journal. -/
def log (r : Roster) (event : Event) : Roster := { r with journal := r.journal ++ [event] }

/-- The first place with a plugin of a name that is runnable. -/
def firstRunnable? (r : Roster) (name : String) : Option Nat :=
  (List.range r.size).find? fun i => (r.handle i).name = name && (r.handle i).view.isRunnable

/-- A call begins. -/
def enter (r : Roster) (i : Nat) (step : Step) : Roster :=
  (r.modifyHandle i Handle.enter).log (.called i step)

/-- The fault of a result. -/
def fault? : Except PluginError α → Option PluginError
  | .ok _ => none
  | .error e => some e

/-- A call ends: the memory is kept, and the caller gets the result. -/
def leave (r : Roster) (i : Nat) (step : Step) (memory : Dict) (result : Except Halt α) :
    Except PluginError α × Roster :=
  let kept : Handle := { r.handle i with memory }
  let (reply, h) := kept.leave result
  (reply, (r.modifyHandle i fun _ => h).log (.returned i step (fault? reply)))

/-- Serves code that only tends its own plugin. -/
def serveLocal : (q : Signature.none.noting.Request) → Roster → Signature.none.noting.Reply q × Roster
  | .note line, r => ((), r.log (.noted line))
  | .other q, _ => nomatch q

/-- Calls code that only tends its own plugin. -/
def callLocal (r : Roster) (i : Nat) (step : Step) (code : LocalCode α) : Except PluginError α × Roster :=
  let ((result, memory), r') := (code.run.run (r.handle i).memory).run serveLocal (r.enter i step)
  r'.leave i step memory result

/-- Moves the plugin at a place to a state, if it may go there. -/
def move (r : Roster) (i : Nat) (next : Lifecycle) : Roster :=
  if (r.handle i).state.canEnter next then (r.modifyHandle i (·.moved next)).log (.moved i next) else r

/-- The roster with a plugin more, which has tended itself on loading. -/
def add (r : Roster) (plugin : Plugin) (origin : Origin) (version? : Option (Nat × Nat)) : Roster :=
  let i := r.size
  let r := { r with entries := r.entries ++ [{ handle := .ofPlugin plugin, origin, version? : Entry }] }
  match r.callLocal i (.bringUp .postLoad) plugin.postLoad with
  | (.ok _, r) => r.move i .postLoaded
  | (.error e, r) => r.move i (.rejected .postLoad e.message)

/-- The lines that plugins noted. -/
def notes (r : Roster) : List String :=
  r.journal.filterMap fun
    | .noted line => some line
    | _ => none

end Roster
end Calibration
