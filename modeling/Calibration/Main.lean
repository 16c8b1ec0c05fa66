/-
# The program

Reads the files below the working directory, does what the arguments say, writes the files that have changed, and
keeps time for the scheduler. A file that holds the word `module` and a name stands for the module of that name.
-/

import Calibration.CommandLine.Report
import Calibration.Sample.Modules

namespace Calibration
namespace Program

/-- What a file holds, by its bytes. -/
def content (bytes : ByteArray) : FileContent :=
  match String.fromUTF8? bytes with
  | none => .bytes bytes.toList
  | some text =>
    match (Path.split ' ' (text.toList.takeWhile (· ≠ '\n'))).map String.ofList with
    | ["module", name] => .image name
    | _ => .text text

/-- The files below the directory that is reached by some names. -/
partial def readBelow (files : Files) (names : List String) : IO Files := do
  let top ← IO.currentDir
  let directory := names.foldl (· / ·) top
  let mut files := files
  for entry in ← directory.readDir do
    let below := names ++ [entry.fileName]
    if ← entry.path.isDir then
      files ← readBelow (files.put below .directory) below
    else
      files := files.put below (.file (content (← IO.FS.readBinFile entry.path)))
  return files

/-- Writes what is new or has changed. -/
def writeChanges (before after : Files) : IO Unit := do
  let top ← IO.currentDir
  for (names, node) in after.nodes do
    if before.node? names ≠ some node then
      let path := names.foldl (· / ·) top
      match node with
      | .directory => IO.FS.createDirAll path
      | .file (.text text) => IO.FS.writeFile path text
      | .file _ => pure ()

/-- Runs the rounds of the scheduler, or as many as there is time for. -/
partial def runSchedule (before : Files) (h : Host) (chains : List Chain) (ticks? : Option Nat) (interval : Nat) :
    IO Unit := do
  if ticks? ≠ some 0 then
    let now ← IO.monoMsNow
    let (_, h, chains) := Scheduler.round (fun _ => ⟨now, now⟩) h chains
    writeChanges before h.store.files
    IO.sleep interval.toUInt32
    runSchedule h.store.files h chains (ticks?.map (· - 1)) interval

/-- Prints a report and writes its files. -/
def deliver (before : Files) (r : CommandLine.Report) : IO UInt32 := do
  IO.print r.stdout
  IO.eprint r.stderr
  writeChanges before r.files
  return r.exit.toUInt32

end Program
end Calibration

open Calibration in
def main (arguments : List String) : IO UInt32 := do
  let files ← Program.readBelow {} []
  match CommandLine.start { files, loader := Sample.open? } arguments with
  | .inl report => Program.deliver files report
  | .inr (.ended ending) => Program.deliver files ending.report
  | .inr (.scheduling host chains ticks? interval) =>
    Program.runSchedule files host chains ticks? interval
    return 0
