/-
# Scripted plugins

A plugin that does in each stage what its script says. It notes each stage that it enters, counts how often it was
entered, and goes through the steps until one fails.
-/

import Calibration.Item.Json
import Calibration.Plugin.Basic
import Calibration.Script.Step

namespace Calibration

/-- A script: for each stage its steps. An interface is there if it has steps, or an empty list of steps. -/
structure Script where
  name : String
  attributes : List String := []
  postLoad : List Script.Step := []
  checkDeps : List Script.Step := []
  postCheck : List Script.Step := []
  preRun : List Script.Step := []
  run : List Script.Step := []
  postRun : List Script.Step := []
  ui? : Option (List Script.Step) := none
  sensor? : Option (List Script.Step) := none
  hasDdc : Bool := false

namespace Script

/-- How often a stage was entered. -/
def count (memory : Dict) (stage : String) : Int := ((memory.getInt? stage).map (·.toInt)).getD 0

/-- The memory with one entry more into a stage. -/
def counted (memory : Dict) (stage : String) : Dict :=
  memory.set stage (.int (Int32.ofInt (count memory stage + 1)))

variable {S : Signature}

/-- Enters a stage; gives the number of the entry. -/
def enter (name stage : String) : Code S Dict Int := do
  .note (name ++ ":" ++ stage)
  modify (counted · stage)
  return count (← get) stage

/-- One step of a stage with nothing to look at. -/
def localStep (name : String) (n : Int) (step : Step) : LocalCode Unit := (step.action.common? name n).getD (pure ())

/-- One step of the late check. -/
def lateStep (name : String) (n : Int) (plugins : List PluginView) (step : Step) : LocalCode Unit :=
  (step.action.common? name n).getD (step.action.lookUp name plugins)

/-- A plugin and its state, as dependency checks note them. -/
def stateText (p : PluginView) : String := p.name ++ " " ++ p.state.text

/-- Notes the plugins that a request has given. A request that is not met fails the step unless it is optional. -/
def noteReply (name label : String) (isOptional : Bool) :
    Except PluginError (List PluginView) → NeedCode Unit
  | .ok plugins =>
    .note (name ++ ":" ++ label ++ "=" ++ String.intercalate "," (plugins.map stateText))
  | .error e => if isOptional then .note (name ++ ":" ++ e.message) else .fail e

/-- One step of the dependency check. -/
def needStep (name : String) (n : Int) (plugins : List PluginView) (step : Step) : NeedCode Unit :=
  match step.action.common? name n with
  | some code => code
  | none =>
    match step.action with
    | .require wanted isOptional => do
      noteReply name step.action.label isOptional ((← NeedCode.require wanted).map ([·]))
    | .requireAttributes wanted isOptional => do
      noteReply name step.action.label isOptional (← NeedCode.requireAttributes wanted)
    | action => action.lookUp name plugins

/-- A truth value in notes. -/
def truth (b : Bool) : String := if b then "true" else "false"

/-- The chain's dict, without which a step fails. -/
def chainDict (ctx : RunContext) : ChainCode DictRef := do
  match ← ctx.dict? with
  | some r => pure r
  | none => .fail (.config "no dict")

/-- A reading by the first runnable plugin of a name, which must be another one. -/
def measure (name wanted : String) : ChainCode Measurement := do
  if wanted = name then .fail (.missingDependency wanted)
  match ← ChainCode.measure wanted with
  | some reading => .ofExcept reading
  | none => .fail (.missingDependency wanted)

/-- A step that looks for plugins, in the chain or in the registry. -/
def chainLookUp (ctx : RunContext) (name : String) (step : Step) : ChainCode Unit :=
  if step.inRegistry then
    match ctx.registry? with
    | some plugins => step.action.lookUp name plugins
    | none => .note (name ++ ":no registry")
  else step.action.lookUp name ctx.members

/-- One step of a stage in a chain. -/
def chainStep (ctx : RunContext) (name : String) (n : Int) (step : Step) : ChainCode Unit :=
  let noted (text : String) : ChainCode Unit := .note (name ++ ":" ++ step.action.label ++ "=" ++ text)
  match step.action.common? name n with
  | some code => code
  | none =>
    match step.action with
    | .cancel => ChainCode.cancel
    | .poll => do if ← ChainCode.isCancelled then .fail .cancelled
    | .cancelled => do
      let b ← ChainCode.isCancelled
      noted (truth b ++ "," ++ truth b)
    | .set key item => do ChainCode.setItem (← chainDict ctx) key item
    | .remove key => do
      let r ← chainDict ctx
      let present := (← ChainCode.readDict r).entries.has key
      ChainCode.onStore fun s => ((), s.modifyDict r (·.erase key))
      noted (truth present)
    | .need tag key => do
      let d ← ChainCode.readDict (← chainDict ctx)
      let item ← .ofExcept (d.require tag key)
      noted item.valueJson.compact
    | .panicLocked => do
      ChainCode.setItem (← chainDict ctx) "panicked" (.int 1)
      .panic
    | .newDict wanted => do let _made ← ChainCode.onStore (·.newDict ctx.table wanted)
    | .clearDict wanted => do noted (truth (← ChainCode.onStore (·.clearDict ctx.table wanted)))
    | .copy target keys => do
      let r ← chainDict ctx
      let copied ← ChainCode.onStore (·.copyInto r ctx.table target keys)
      noted (toString copied)
    | .ui key item => do noted (truth (← ChainCode.showItem key item))
    | .measure wanted => do
      let m ← measure name wanted
      noted (m.x.text ++ "," ++ m.y.text ++ "," ++ m.z.text)
    | _ => chainLookUp ctx name step

/-- A stage in a chain. -/
def chainStage (name stage : String) (steps : List Step) (ctx : RunContext) : ChainCode Unit := do
  .note (name ++ ":" ++ stage)
  modify fun w => { w with memory := counted w.memory stage }
  let n := count (← ChainCode.memory) stage
  steps.forM (chainStep ctx name n)

/-- One step of a reading; gives the reading so far. -/
def sensorStep (name : String) (n : Int) (isCancelled : Bool) (m : Measurement) (step : Step) :
    LocalCode Measurement :=
  match step.action with
  | .poll => if isCancelled then .fail .cancelled else pure m
  | .reading value => pure value
  | _ => do
    localStep name n step
    return m

/-- The settings of a display, kept in memory by their numbers. -/
def settings : DisplayControl where
  read code := do
    match (← get).getInt? (toString code.toNat) with
    | some value => pure (.ofInt value.toInt)
    | none => .fail (.hardware ("no VCP " ++ toString code.toNat))
  write code value := modify (·.set (toString code.toNat) (.int (.ofNat value.toNat)))

/-- The plugin of a script. -/
def plugin (s : Script) : Plugin where
  name := s.name
  attributes := s.attributes
  postLoad := do s.postLoad.forM (localStep s.name (← enter s.name "post_load"))
  checkDeps plugins := do
    let n ← enter s.name "check_deps"
    s.checkDeps.forM (needStep s.name n plugins)
  postCheckDeps plugins := do
    let n ← enter s.name "post_check"
    s.postCheck.forM (lateStep s.name n plugins)
  preRun := chainStage s.name "pre_run" s.preRun
  run := chainStage s.name "run" s.run
  postRun := chainStage s.name "post_run" s.postRun
  ui? := s.ui?.map fun steps key item => do
    let n ← enter s.name "ui"
    .note (s.name ++ ":" ++ key ++ "=" ++ item.valueJson.compact)
    steps.forM (localStep s.name n)
  sensor? := s.sensor?.map fun steps isCancelled => do
    let n ← enter s.name "sensor"
    steps.foldlM (sensorStep s.name n isCancelled) default
  ddc? := if s.hasDdc then some settings else none

end Script
end Calibration
