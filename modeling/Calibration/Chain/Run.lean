/-
# Running a chain

A run has three stages. Every plugin prepares itself, in order; those that are prepared do their work, in order,
until the run is cancelled or, if the policy says so, until one fails; in the end every plugin tidies up, in order,
whatever happened before. All failures are reported together. A plugin that stops because the run is cancelled has
not failed.
-/

import Calibration.Chain.Serve

namespace Calibration

/-- The code of a stage. -/
def Plugin.code (p : Plugin) : RunStage → RunContext → ChainCode Unit
  | .preRun => p.preRun
  | .run => p.run
  | .postRun => p.postRun

/-- How the call of a plugin ended. -/
structure Outcome where
  plugin : Nat
  stage : RunStage
  result : Except PluginError Unit

namespace Outcome

/-- The call succeeded. -/
def isOk (o : Outcome) : Bool :=
  match o.result with
  | .ok _ => true
  | .error _ => false

/-- The fault of a call that failed; to stop because the run is cancelled is none. -/
def fault? (o : Outcome) : Option PluginError :=
  match o.result with
  | .ok _ => none
  | .error .cancelled => none
  | .error e => some e

/-- The report of a failure. -/
def failure? (r : Roster) (o : Outcome) : Option StageFailure :=
  o.fault?.map fun e => ⟨(r.handle o.plugin).name, o.stage, e.message⟩

end Outcome

namespace Run

/-- Calls a stage of the plugin at a place. -/
def call (ctx : RunContext) (members : List Nat) (stage : RunStage) (run : Run) (i : Nat) : Outcome × Run :=
  let h := run.roster.handle i
  let work : Workspace := ⟨h.memory, run.store⟩
  let ((result, work), run) :=
    ((h.plugin.code stage ctx).run.run work).run (serve members ctx.registry?.isSome)
      { run with roster := run.roster.enter i (.chain stage) }
  let (result, roster) := run.roster.leave i (.chain stage) work.memory result
  (⟨i, stage, result⟩, { run with roster, store := work.store })

/-- Calls a stage of some plugins, in order. -/
def callAll (ctx : RunContext) (members : List Nat) (stage : RunStage) :
    List Nat → Run → List Outcome × Run
  | [], run => ([], run)
  | i :: rest, run =>
    let (o, run) := run.call ctx members stage i
    let (more, run) := callAll ctx members stage rest run
    (o :: more, run)

/-- Lets the prepared plugins work, until the run is cancelled or a failure stops it. -/
def work (ctx : RunContext) (members : List Nat) (policy : FailurePolicy) :
    List Nat → Run → List Outcome × Run
  | [], run => ([], run)
  | i :: rest, run =>
    if run.isCancelled then ([], run)
    else
      let (o, run) := run.call ctx members .run i
      if o.fault?.isSome && policy = .stopOnFailure then ([o], run)
      else
        let (more, run) := work ctx members policy rest run
        (o :: more, run)

/-- All three stages, with the outcome of each call. -/
def stages (ctx : RunContext) (members : List Nat) (policy : FailurePolicy) (run : Run) : List Outcome × Run :=
  let (prepared, run) := callAll ctx members .preRun members run
  let (worked, run) := work ctx members policy ((prepared.filter (·.isOk)).map (·.plugin)) run
  let (tidied, run) := callAll ctx members .postRun members run
  (prepared ++ worked ++ tidied, run)

end Run

/-- How a run with some failures ends. -/
def Chain.verdict (c : Chain) (failures : List StageFailure) (isCancelled : Bool) : Except ChainError Unit :=
  if !failures.isEmpty then .error (.pluginFailed c.name failures)
  else if isCancelled then .error (.cancelled c.name)
  else .ok ()

/-- Runs a chain. A request to stop that came before the run is forgotten. -/
def Chain.run (c : Chain) (ctx : RunContext) (roster : Roster) (store : Store) : Except ChainError Unit × Run :=
  let (outcomes, run) := Run.stages ctx c.members c.policy { roster, store }
  (c.verdict (outcomes.filterMap (Outcome.failure? run.roster)) run.isCancelled, run)

end Calibration
