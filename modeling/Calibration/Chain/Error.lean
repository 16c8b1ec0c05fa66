/-
# Faults of chains
-/

namespace Calibration

/-- A stage of a chain run. -/
inductive RunStage where
  | preRun
  | run
  | postRun
deriving DecidableEq, Repr

/-- The stage in messages. -/
def RunStage.name : RunStage → String
  | preRun => "pre_run"
  | run => "run"
  | postRun => "post_run"

/-- The failure of one plugin in a chain run. -/
structure StageFailure where
  plugin : String
  stage : RunStage
  message : String
deriving DecidableEq, Repr

/-- Why a chain cannot be put together, or how its run ends if not well. -/
inductive ChainError where
  | notRunnable (name state : String)
  | cancelled (chain : String)
  | pluginFailed (chain : String) (failures : List StageFailure)
deriving DecidableEq, Repr

def ChainError.message : ChainError → String
  | notRunnable name state => "Plugin '" ++ name ++ "' is not runnable (" ++ state ++ ")"
  | cancelled chain => "Chain '" ++ chain ++ "' was cancelled"
  | pluginFailed chain failures =>
    "Chain '" ++ chain ++ "' failed in: " ++ String.intercalate ", " (failures.map (·.plugin))

end Calibration
