/-
# Plugin code

The code of a plugin is a program that may fail or panic, keeps a state of its own, notes lines in the journal of
the host and asks the host for what its stage allows. Code that only tends its own plugin asks for nothing; code
of a dependency check asks for collaborators; code of a chain asks the chain it runs in. A failure or a panic
keeps what the code did before.
-/

import Calibration.Lifecycle
import Calibration.Plugin.Error
import Calibration.Plugin.Task
import Calibration.Store

namespace Calibration

/-- What others see of a plugin. -/
structure PluginView where
  name : String
  attributes : List String
  state : Lifecycle

namespace PluginView

def hasAttribute (p : PluginView) (name : String) : Bool := p.attributes.contains name

/-- The plugin has every one of the attributes. -/
def hasAttributes (p : PluginView) (attributes : List String) : Bool := attributes.all p.hasAttribute

/-- Bring-up is complete. -/
def isRunnable (p : PluginView) : Bool := p.state = .runnable

/-- The first plugin with a name that is runnable. -/
def firstRunnable? (plugins : List PluginView) (name : String) : Option PluginView :=
  plugins.find? fun p => p.name = name && p.isRunnable

end PluginView

/-- Why plugin code stops early. -/
inductive Halt where
  | failed (error : PluginError)
  | panicked

/-- The fault that a host reports. -/
def Halt.error : Halt → PluginError
  | failed error => error
  | panicked => .panicked

namespace Signature

/-- No requests. -/
def none : Signature := ⟨Empty, fun q => nomatch q⟩

/-- The requests of a signature, and lines for the journal. -/
inductive Noting (S : Signature) where
  | note (line : String)
  | other (request : S.Request)

/-- A signature with lines for the journal. -/
def noting (S : Signature) : Signature where
  Request := Noting S
  Reply
    | .note _ => Unit
    | .other q => S.Reply q

end Signature

/-- A request of a dependency check: the plugin with a name, or all plugins with some attributes, among the others
that pass their own dependency check. -/
inductive NeedRequest where
  | require (name : String)
  | requireAttributes (attributes : List String)

/-- What a dependency check asks. -/
def needSignature : Signature where
  Request := NeedRequest
  Reply
    | .require _ => Except PluginError PluginView
    | .requireAttributes _ => Except PluginError (List PluginView)

/-- A request of code in a chain: to cancel the run, whether it is cancelled, to show a value in the chain's user
interface, or to measure with the first runnable plugin of a name in the registry. -/
inductive ChainRequest where
  | cancel
  | isCancelled
  | showItem (key : String) (item : Item)
  | measure (name : String)

/-- What code in a chain asks. A value is shown or not; without a registry or a runnable plugin of the name
there is no measurement. -/
def chainSignature : Signature where
  Request := ChainRequest
  Reply
    | .cancel => Unit
    | .isCancelled => Bool
    | .showItem .. => Bool
    | .measure _ => Option (Except PluginError Measurement)

/-- Code with requests of a signature and a state. -/
abbrev Code (S : Signature) (σ α : Type) := ExceptT Halt (StateT σ (Task S.noting)) α

namespace Code

variable {S : Signature} {σ α : Type}

/-- Writes a line into the journal of the host. -/
def note (line : String) : Code S σ Unit :=
  (.ask (.note line) .done : Task S.noting Unit)

/-- Asks the host. -/
def ask (S : Signature) (q : S.Request) : Code S σ (S.Reply q) :=
  (.ask (.other q) .done : Task S.noting (S.Reply q))

def fail (error : PluginError) : Code S σ α := throw (.failed error)

def panic : Code S σ α := throw .panicked

/-- Goes on with a value, or fails. -/
def ofExcept : Except PluginError α → Code S σ α
  | .ok value => pure value
  | .error e => fail e

end Code

/-- Code that only tends its plugin's own memory. -/
abbrev LocalCode (α : Type) := Code .none Dict α

/-- Code of a dependency check. -/
abbrev NeedCode (α : Type) := Code needSignature Dict α

namespace NeedCode

/-- Asks for the plugin of a name. -/
def require (name : String) : NeedCode (Except PluginError PluginView) :=
  Code.ask needSignature (NeedRequest.require name)

/-- Asks for the plugins with some attributes. -/
def requireAttributes (attributes : List String) : NeedCode (Except PluginError (List PluginView)) :=
  Code.ask needSignature (NeedRequest.requireAttributes attributes)

end NeedCode

/-- What code in a chain works on: the memory of its plugin, and the store. -/
structure Workspace where
  memory : Dict
  store : Store

/-- Code of a chain. -/
abbrev ChainCode (α : Type) := Code chainSignature Workspace α

/-- What code in a chain knows of the chain and the host: plugins do not come, go or change state while a chain
runs. -/
structure RunContext where
  chain : String
  dictName : String
  table : TableRef
  members : List PluginView
  registry? : Option (List PluginView)
  types : ItemTypes
  now : Time.Timestamp

namespace ChainCode

variable {α : Type}

/-- Cancels the run. -/
def cancel : ChainCode Unit := Code.ask chainSignature ChainRequest.cancel

/-- The run is cancelled. -/
def isCancelled : ChainCode Bool := Code.ask chainSignature ChainRequest.isCancelled

/-- Shows a value in the chain's user interface; tells whether it was shown. -/
def showItem (key : String) (item : Item) : ChainCode Bool :=
  Code.ask chainSignature (ChainRequest.showItem key item)

/-- Measures with the first runnable plugin of a name in the registry. -/
def measure (name : String) : ChainCode (Option (Except PluginError Measurement)) :=
  Code.ask chainSignature (ChainRequest.measure name)

/-- The store as it is now. -/
def store : ChainCode Store := return (← get).store

/-- Changes the store and gives a result. -/
def onStore (f : Store → α × Store) : ChainCode α :=
  modifyGet fun w => let (a, store) := f w.store; (a, { w with store })

/-- The dict at a reference as it is now. -/
def readDict (r : DictRef) : ChainCode Dict := return (← store).dict r

/-- Writes an item into the dict at a reference. -/
def setItem (r : DictRef) (key : String) (item : Item) : ChainCode Unit :=
  onStore fun s => ((), s.modifyDict r (·.set key item))

/-- The memory of the plugin. -/
def memory : ChainCode Dict := return (← get).memory

/-- Writes an item into the memory of the plugin. -/
def remember (key : String) (item : Item) : ChainCode Unit :=
  modify fun w => { w with memory := w.memory.set key item }

end ChainCode

namespace RunContext

/-- The chain's dict, looked up by name. -/
def dict? (ctx : RunContext) : ChainCode (Option DictRef) :=
  return (← ChainCode.store).find? ctx.table ctx.dictName

/-- The chain's dict, without which the plugin cannot go on. -/
def dict (ctx : RunContext) : ChainCode DictRef := do
  match ← ctx.dict? with
  | some r => pure r
  | none => .fail (.config ("no dict '" ++ ctx.dictName ++ "'"))

end RunContext
end Calibration
