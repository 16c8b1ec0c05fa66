/-
# Reports

What the program leaves behind when it ends: an exit code, two texts, and files. The code is `0` after success,
`1` after a fault, and `2` if the arguments do not fit.
-/

import Calibration.CommandLine.Commands
import Calibration.CommandLine.Help

namespace Calibration
namespace CommandLine

/-- What a run of the program leaves behind. -/
structure Report where
  exit : Nat
  stdout : String := ""
  stderr : String := ""
  files : Files

/-- The report of a command that has ended. -/
def Ending.report (e : Ending) : Report where
  exit := if e.fault?.isSome then 1 else 0
  stdout := e.printed
  stderr := (e.fault?.map Fault.text).getD ""
  files := e.files

/-- The scheduler's rounds on a clock that shows nothing but the waiting between them. -/
def evenly (interval : Nat) : Nat → Nat → Scheduler.Moment :=
  fun k _ => ⟨k * interval, k * interval⟩

/-- The report of a command. A scheduler without a number of rounds never ends. -/
def Execution.report? : Execution → Option Report
  | .ended e => some e.report
  | .scheduling h chains ticks? interval =>
    ticks?.map fun ticks =>
      { exit := 0, files := (Scheduler.rounds (evenly interval) ticks h chains).1.store.files }

/-- The name and version of the program or of a command. -/
def versionLine (command? : Option String) : String :=
  "lumen" ++ (command?.map ("-" ++ ·)).getD "" ++ " 0.1.0"

/-- What comes of the arguments: a report at once, or the execution of a command. -/
def start (s : Setting) (arguments : List String) : Report ⊕ Execution :=
  match Request.read? arguments with
  | none => .inl { exit := 2, files := s.files }
  | some (.version command?) => .inl { exit := 0, stdout := printed [versionLine command?], files := s.files }
  | some (.help command?) => .inl { exit := 0, stdout := printed (helpLines command?), files := s.files }
  | some (.perform options command) => .inr (command.perform s options)

/-- The report of a run of the program with some arguments, if the run ends. -/
def report? (s : Setting) (arguments : List String) : Option Report :=
  match start s arguments with
  | .inl report => some report
  | .inr execution => execution.report?

end CommandLine
end Calibration
