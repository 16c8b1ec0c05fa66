/-
# Commands

Every command reads the configuration, loads the built-in plugins and those in the directories, and brings them
up. What a command prints is a text and, if it fails, the fault that ended it. The scheduler takes time, so it
is handed back ready to start.
-/

import Calibration.Builtin.Registry
import Calibration.CommandLine.Fault
import Calibration.CommandLine.Request
import Calibration.Config.Chains
import Calibration.Config.Document
import Calibration.Dict.File
import Calibration.Host.Listing
import Calibration.Host.Loading
import Calibration.Scheduler

namespace Calibration
namespace CommandLine

/-- What the program finds around it: its files, how modules are opened, and the time. -/
structure Setting where
  files : Files
  loader : Loader
  now : Time.Timestamp := .epoch

/-- How a command ended: what it printed, the fault if it failed, and the files. -/
structure Ending where
  printed : String := ""
  fault? : Option Fault := none
  files : Files

/-- What comes of a command. -/
inductive Execution where
  | ended (ending : Ending)
  /-- The scheduler starts, for a number of rounds or for ever, with milliseconds between them. -/
  | scheduling (host : Host) (chains : List Chain) (ticks? : Option Nat) (interval : Nat)

/-- The configuration. -/
def loadConfig (s : Setting) (options : HostOptions) : Except Fault Config :=
  (Config.load s.files options.config).mapError fun e =>
    (Fault.ofRegistry e).during ("Failed to read config " ++ options.config)

/-- A host with all plugins brought up. -/
def bringUp (s : Setting) (options : HostOptions) (config : Config) : Host :=
  let h : Host := { Host.withBuiltins s.files with now := s.now }
  (h.loadDirectories s.loader (config.pluginDirs ++ options.pluginDirs)).2.bringUp.2

/-- The sign of a state in lists. -/
def stateSign (state : Lifecycle) : String :=
  if state = .runnable then "✓" else if state.isRejected then "✗" else "○"

/-- A plugin in a list. -/
def listingText (l : Listing) : String :=
  let version := (l.version?.map (" v" ++ ·)).getD ""
  let attributes := if l.attributes.isEmpty then "" else " [" ++ String.intercalate ", " l.attributes ++ "]"
  let reason := match l.state with
    | .rejected stage reason => "\n    rejected in " ++ stage.name ++ ": " ++ reason
    | _ => ""
  stateSign l.state ++ " " ++ l.name ++ version ++ attributes ++ "    " ++ l.origin.text ++ reason

/-- Lines as they are printed. -/
def printed (lines : List String) : String := String.join (lines.map (· ++ "\n"))

/-- The list of plugins. -/
def listText (asJson : Bool) (plugins : List Listing) : String :=
  if asJson then printed [(Text.Json.array (plugins.map Listing.json)).pretty 0]
  else if plugins.isEmpty then printed ["No plugins loaded"]
  else printed (plugins.map listingText)

/-- The value of an item: its text, or the documents of the elements that it is made of. -/
def valueText (item : Item) : Except DictError String := do
  let node ← item.toElement "item"
  return if node.children.isEmpty then node.text else String.join (node.children.map Xml.Element.render)

/-- An entry of a dict. -/
def entryText (key : String) (item : Item) : Except DictError String := do
  return key ++ " (" ++ item.tag ++ ") = " ++ (← valueText item)

/-- Prints entries up to the first that has no text. -/
def printEntries (files : Files) (done : List String) : Assoc Item → Ending
  | [] => { printed := printed done, files }
  | (key, item) :: rest =>
    match entryText key item with
    | .ok line => printEntries files (done ++ [line]) rest
    | .error e => { printed := printed done, fault? := some (Fault.ofDict e), files }

/-- Prints the dict in a file. -/
def printDict (s : Setting) (h : Host) (file : String) : Ending :=
  match ({ scope := .host } : Dict).load h.types s.files file with
  | .error e =>
    { fault? := some ((Fault.ofDict e).during ("Failed to read dict " ++ file)), files := s.files }
  | .ok d =>
    if d.entries.isEmpty then { printed := printed [file ++ " has no entries"], files := s.files }
    else printEntries s.files [] d.entries

/-- A failure in a chain run. -/
def failureText (f : StageFailure) : String :=
  "✗ " ++ f.plugin ++ " (" ++ f.stage.name ++ "): " ++ f.message

/-- Runs the chain of a plan. -/
def runChain (h : Host) (plan : ChainPlan) : Ending :=
  match plan.build h with
  | (.error e, h) =>
    { fault? := some ((Fault.ofRegistry e).during ("Failed to assemble chain '" ++ plan.name ++ "'"))
      files := h.store.files }
  | (.ok c, h) =>
    match h.run c with
    | (.ok _, h, c) => { printed := printed ["Chain '" ++ c.name ++ "' completed"], files := h.store.files }
    | (.error (.pluginFailed _ failures), h, c) =>
      { printed := printed (failures.map failureText)
        fault? := some ⟨"Chain '" ++ c.name ++ "' failed", []⟩
        files := h.store.files }
    | (.error e, h, _) => { fault? := some ⟨e.message, []⟩, files := h.store.files }

/-- Puts the chains of a configuration together for the scheduler. -/
def prepareSchedule (h : Host) (config : Config) (ticks? : Option Nat) (interval : Nat) : Execution :=
  match config.buildChains h with
  | (.error e, h) => .ended { fault? := some (.ofRegistry e), files := h.store.files }
  | (.ok chains, h) =>
    if Scheduler.hasWork chains then .scheduling h chains ticks? interval
    else .ended { printed := printed ["No periodic chains configured"], files := h.store.files }

/-- Does what a command says, with its configuration. -/
def Command.performWith (s : Setting) (options : HostOptions) (config : Config) : Command → Execution
  | .list asJson => .ended { printed := listText asJson (bringUp s options config).list, files := s.files }
  | .run name _ =>
    match config.chain? name with
    | none =>
      let message := "Chain '" ++ name ++ "' is not defined in " ++ options.config
      .ended { fault? := some ⟨message, []⟩, files := s.files }
    | some plan => .ended (runChain (bringUp s options config) plan)
  | .schedule ticks? interval => prepareSchedule (bringUp s options config) config ticks? interval
  | .dict file => .ended (printDict s (bringUp s options config) file)

/-- Does what a command says. -/
def Command.perform (s : Setting) (options : HostOptions) (command : Command) : Execution :=
  match loadConfig s options with
  | .error fault => .ended { fault? := some fault, files := s.files }
  | .ok config => command.performWith s options config

end CommandLine
end Calibration
