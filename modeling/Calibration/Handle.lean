/-
# Handles

A handle holds a loaded plugin: its memory, its place in the lifecycle, the text of its last failure, and whether
its code runs at the moment. All calls of a plugin's code go through `invoke` or `tryInvoke`. A panic is reported
as a fault, every fault becomes the text of the last failure, and so does the reason of a rejection.
-/

import Calibration.Plugin.Basic

namespace Calibration

/-- A loaded plugin. -/
structure Handle where
  plugin : Plugin
  memory : Dict
  state : Lifecycle := .loaded
  error : Option String := none
  isBusy : Bool := false

namespace Handle

/-- A fresh handle. -/
def ofPlugin (plugin : Plugin) : Handle := { plugin, memory := plugin.memory }

instance : Inhabited Handle := ⟨ofPlugin { name := "" }⟩

/-- What others see of the plugin. -/
def view (h : Handle) : PluginView := ⟨h.plugin.name, h.plugin.attributes, h.state⟩

def name (h : Handle) : String := h.plugin.name

def setError (h : Handle) (message : String) : Handle := { h with error := some message }

/-- Moves to a state; refuses to go back or to leave out a phase. -/
def transition (h : Handle) (next : Lifecycle) : Except LifecycleError Unit × Handle :=
  if h.state.canEnter next then
    (.ok (), match next with
      | .rejected _ reason => { h with state := next, error := some reason }
      | _ => { h with state := next })
  else (.error ⟨h.name, h.state.text, next.text⟩, h)

/-- Rejects the plugin in a phase. -/
def reject (h : Handle) (stage : BringUpStage) (reason : String) : Except LifecycleError Unit × Handle :=
  h.transition (.rejected stage reason)

/-- The handle after a transition, whether it was allowed or not. -/
def moved (h : Handle) (next : Lifecycle) : Handle := (h.transition next).2

variable {α : Type}

/-- The handle while its plugin's code runs. -/
def enter (h : Handle) : Handle := { h with isBusy := true }

/-- The handle once the code has come back, and the result as the caller gets it. -/
def leave (h : Handle) : Except Halt α → Except PluginError α × Handle
  | .ok value => (.ok value, { h with isBusy := false })
  | .error halt => (.error halt.error, { h with isBusy := false, error := some halt.error.message })

/-- Calls the plugin's code, given as what it does to the handle. -/
def invoke (h : Handle) (call : Handle → Except Halt α × Handle) : Except PluginError α × Handle :=
  let (result, h) := call h.enter
  h.leave result

/-- Calls the plugin's code unless it runs already. -/
def tryInvoke (h : Handle) (call : Handle → Except Halt α × Handle) :
    Option (Except PluginError α) × Handle :=
  if h.isBusy then (none, h)
  else
    let (result, h) := h.invoke call
    (some result, h)

/-- The handle in messages. -/
def debugText (h : Handle) : String :=
  "PluginHandle \x7b name: " ++ Text.quoted h.name ++ ", attributes: " ++ Text.quotedList h.plugin.attributes ++
    ", state: " ++ h.state.debugText ++ " \x7d"

end Handle
end Calibration
