/-
# Requests

What the arguments of the program ask for. The options of the host may stand in front of the command and behind
it; what stands behind it counts.
-/

import Calibration.Assoc
import Calibration.CommandLine.Arguments

namespace Calibration
namespace CommandLine

/-- Where the host finds its configuration and more plugins. -/
structure HostOptions where
  config : String := "lumen.toml"
  /-- Directories that are searched after those of the configuration. -/
  pluginDirs : List String := []
  isVerbose : Bool := false
deriving DecidableEq, Repr

/-- A command. -/
inductive Command where
  | list (asJson : Bool)
  /-- Runs a chain; a run that takes longer than a number of seconds is cancelled. -/
  | run (chain : String) (timeout? : Option Nat)
  /-- Runs the scheduler for a number of rounds, or for ever, with milliseconds between them. -/
  | schedule (ticks? : Option Nat) (interval : Nat)
  | dict (file : String)
deriving DecidableEq, Repr

/-- What is asked for: the version or help, of the program or of a command, or a command. -/
inductive Request where
  | version (command? : Option String)
  | help (command? : Option String)
  | perform (host : HostOptions) (command : Command)
deriving DecidableEq, Repr

namespace Form

def config : OptionForm :=
  { long := "config", short? := some 'c', kind := .path, placeholder := "CONFIG"
    about := "Config file with plugin directories and chains [default: lumen.toml]" }

def pluginDir : OptionForm :=
  { long := "plugin-dir", kind := .path, isRepeatable := true, placeholder := "PLUGIN_DIRS"
    about := "Extra plugin directory, searched after the configured ones" }

def verbose : OptionForm := { long := "verbose", short? := some 'v', about := "Verbose output" }

def help : OptionForm := { long := "help", short? := some 'h', about := "Print help" }

def version : OptionForm := { long := "version", short? := some 'V', about := "Print version" }

def json : OptionForm := { long := "json", about := "Print JSON instead of a table" }

def timeout : OptionForm :=
  { long := "timeout", kind := .number, placeholder := "TIMEOUT", about := "Cancel the run after this many seconds" }

def ticks : OptionForm :=
  { long := "ticks", kind := .number, placeholder := "TICKS"
    about := "Number of polling rounds; runs until interrupted when omitted" }

def interval : OptionForm :=
  { long := "interval-ms", kind := .number, placeholder := "INTERVAL_MS"
    about := "Milliseconds between polling rounds [default: 1000]" }

end Form

/-- The commands, with what they are for. -/
def commandNames : List (String × String) :=
  [("list", "Bring up every plugin and list them"),
   ("run", "Run a configured chain once"),
   ("schedule", "Run periodic chains whenever they are due"),
   ("dict", "Print the entries of an XML dict file"),
   ("help", "Print this message or the help of the given subcommand(s)")]

/-- The options that may stand everywhere. -/
def hostForms : List OptionForm := [Form.config, Form.pluginDir, Form.verbose, Form.help, Form.version]

/-- What stands in front of a command. -/
def mainGrammar : Grammar where
  about := "Display calibration plugin host"
  options := hostForms
  commands := commandNames

/-- What stands behind a command. Behind `help` stand names of commands. -/
def commandGrammar (name : String) : Grammar :=
  let about := (Assoc.find? commandNames name).getD ""
  match name with
  | "list" => { about, options := Form.json :: hostForms }
  | "run" =>
    { about, options := Form.timeout :: hostForms
      positions := [{ placeholder := "CHAIN", about := "Chain name from the config file" }] }
  | "schedule" => { about, options := Form.ticks :: Form.interval :: hostForms }
  | "dict" =>
    { about, options := hostForms
      positions := [{ kind := .path, placeholder := "FILE", about := "XML dict file" }] }
  | _ =>
    { about
      positions := [{ placeholder := "COMMAND", about := "Print help for the subcommand(s)", isRepeatable := true }] }

/-- The number that an option gives. -/
def Given.number? (v : Given) (long : String) : Option Nat := (v.values long).head?.bind readNumber?

/-- The command that was given. -/
def Command.of? (name : String) (v : Given) : Option Command :=
  match name, v.positions with
  | "list", [] => some (.list (v.has "json"))
  | "run", [chain] => some (.run chain (v.number? "timeout"))
  | "schedule", [] => some (.schedule (v.number? "ticks") ((v.number? "interval-ms").getD 1000))
  | "dict", [file] => some (.dict file)
  | _, _ => none

/-- The values of an option behind the command, or else those in front of it. -/
def innermost (outer inner : Given) (long : String) : List String :=
  if inner.has long then inner.values long else outer.values long

/-- The options of the host, given in front of the command and behind it. -/
def HostOptions.of (outer inner : Given) : HostOptions where
  config := (innermost outer inner "config").head?.getD "lumen.toml"
  pluginDirs := innermost outer inner "plugin-dir"
  isVerbose := inner.has "verbose" || outer.has "verbose"

/-- Help or the version, of the program or of a command. -/
def Request.asked (name : String) (command? : Option String) : Request :=
  if name = "version" then version command? else help command?

/-- The help that is asked for by name. -/
def Request.helpOn? : List String → Option Request
  | [] => some (help none)
  | [name] => if mainGrammar.hasCommand name then some (help (some name)) else none
  | _ => none

/-- What the arguments ask for, if they fit. -/
def Request.read? (arguments : List String) : Option Request :=
  match CommandLine.read? mainGrammar {} arguments with
  | none => none
  | some (.done _) => none
  | some (.asked name) => some (.asked name none)
  | some (.command outer name rest) =>
    if name = "help" then helpOn? rest
    else
      match CommandLine.read? (commandGrammar name) {} rest with
      | some (.done inner) => (Command.of? name inner).map (perform (.of outer inner))
      | some (.asked question) => some (.asked question (some name))
      | _ => none

end CommandLine
end Calibration
