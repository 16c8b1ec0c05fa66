/-
# The host

A host keeps the registry (the loaded plugins, the item types and modules they brought) and the store that plugins
share. When the registry is closed its item types go, and plugins no longer find one another; chains that were put
together before keep their plugins.
-/

import Calibration.Chain.Run
import Calibration.BringUp.Late
import Calibration.Registry.Error

namespace Calibration

/-- A host. -/
structure Host where
  roster : Roster := {}
  types : ItemTypes := []
  /-- The number of open modules. -/
  modules : Nat := 0
  /-- The registry has not been closed. -/
  isOpen : Bool := true
  store : Store := { tables := [{ scope := .host }] }
  /-- The time of new records. -/
  now : Time.Timestamp := .epoch
  /-- Ticks of a clock that never goes back. -/
  clock : Nat := 0
  /-- The number of ticks in a second. -/
  second : Nat := 1000

/-- A plain value that a user interface shows. -/
inductive PlainValue where
  | bool (value : Bool)
  | int (value : Int32)
  | double (value : Number.Binary64)
  | string (value : String)

/-- The value as an item. -/
def PlainValue.item : PlainValue → Item
  | bool value => .bool value
  | int value => .int value
  | double value => .double value
  | string value => .string value

namespace Host

/-- The table of the registry's dicts, whose dicts know all item types of the host. -/
def mainTable : TableRef := 0

/-- What others see of the registry's plugins. -/
def views (h : Host) : List PluginView := if h.isOpen then h.roster.views else []

/-- Closes the registry. -/
def close (h : Host) : Host := { h with isOpen := false, types := [], modules := 0 }

/-- The host with one table of dicts more, whose dicts read items in a scope. -/
def addTable (h : Host) (scope : TypeScope) : TableRef × Host :=
  (h.store.tables.length, { h with store := { h.store with tables := h.store.tables ++ [{ scope }] } })

/-- Adds a plugin of the application, with a factory for its own item types if it has one. -/
def loadStatic (h : Host) (plugin : Plugin) (items? : Option Factory) : Host :=
  { h with
    types := match items? with
      | some factory => h.types.register plugin.name factory
      | none => h.types
    roster := h.roster.add plugin .static none }

def checkDeps (h : Host) : Host := { h with roster := h.roster.checkDeps }

def postCheckDeps (h : Host) : Host := { h with roster := h.roster.postCheckDeps }

/-- Both dependency phases; gives the number of runnable plugins. -/
def bringUp (h : Host) : Nat × Host :=
  let roster := h.roster.bringUp
  (roster.runnableCount, { h with roster })

/-- The first runnable plugin of a name, else the first of that name. -/
def runnableByName (h : Host) (name : String) : Except RegistryError Nat :=
  match (List.range h.roster.size).filter fun i => (h.roster.handle i).name = name with
  | [] => .error (.notFound name)
  | first :: rest => .ok (((first :: rest).find? fun i => (h.roster.handle i).view.isRunnable).getD first)

/-- An empty chain bound to the registry; its dict is made if there is none of the name. -/
def newChain (h : Host) (name dictName : String) : Chain × Host :=
  ({ name, dictName, table := mainTable, isBound := true },
    { h with store := (h.store.newDict mainTable dictName).2 })

/-- The chain can look for plugins of the registry. -/
def hasRegistry (h : Host) (c : Chain) : Bool := c.isBound && h.isOpen

/-- What the code in a chain knows. -/
def context (h : Host) (c : Chain) : RunContext where
  chain := c.name
  dictName := c.dictName
  table := c.table
  members := c.views h.roster
  registry? := if h.hasRegistry c then some h.views else none
  types := h.types
  now := h.now

/-- Runs a chain. -/
def run (h : Host) (c : Chain) : Except ChainError Unit × Host × Chain :=
  let (result, run) := c.run (h.context c) h.roster h.store
  (result, { h with roster := run.roster, store := run.store },
    { c with isCancelled := run.isCancelled, lastStart := some h.clock })

/-- Shows a value in the user interface of a chain; tells whether it was shown. -/
def showItem (h : Host) (c : Chain) (key : String) (item : Item) : Bool × Host :=
  let (shown, roster) := h.roster.showItem c.members key item
  (shown, { h with roster })

/-- The same for a plain value. -/
def showValue (h : Host) (c : Chain) (key : String) (value : PlainValue) : Bool × Host := h.showItem c key value.item

end Host
end Calibration
