/-
# A run of the white point

The white point asks its host twice: to measure with the sensor that it has chosen, and to show the result.  What a run
comes to hangs on the reply to the first request alone (`run_of_reply`); whether the result was shown makes no
difference.  All that it writes comes last, so that a run that ends early has written nothing.
-/

import Calibration.Demo.WhitePoint
import Calibration.Proofs.Chain.Code

namespace Calibration
namespace WhitePoint

variable {σ : Type} {serve : (q : chainSignature.noting.Request) → σ → chainSignature.noting.Reply q × σ}
  {w : Workspace} {s s' : σ}

/-- The store with a reading and its coordinates in the dict at a reference. -/
def written (store : Store) (r : DictRef) (m : Measurement) (xy : List Number.Binary64) : Store :=
  (store.modifyDict r (·.set readingKey (.xyz m))).modifyDict r (·.set chromaticityKey (.doubleArray xy))

/-- What the plugin does with a reading. -/
def record (ctx : RunContext) (m : Measurement) : ChainCode Unit := do
  match m.chromaticity? with
  | none => .fail (.hardware "no light on the sensor")
  | some (x, y) =>
    let _shown ← ChainCode.showItem "WhitePoint::status" (.string ("x=" ++ x.fixed 4 ++ " y=" ++ y.fixed 4))
    let r ← ctx.dict
    ChainCode.setItem r readingKey (.xyz m)
    ChainCode.setItem r chromaticityKey (.doubleArray [x, y])

/-- What becomes of a reading: both results, or the reason why there is none. -/
def recorded (ctx : RunContext) (store : Store) (m : Measurement) : Except PluginError Store :=
  match m.chromaticity? with
  | none => .error (.hardware "no light on the sensor")
  | some (x, y) =>
    match store.find? ctx.table ctx.dictName with
    | none => .error (.config ("no dict '" ++ ctx.dictName ++ "'"))
    | some r => .ok (written store r m [x, y])

/-- How the code ends that leaves this store, or fails. -/
def ending (w : Workspace) : Except PluginError Store → Except Halt Unit × Workspace
  | .ok store => (.ok (), { w with store })
  | .error e => (.error (.failed e), w)

/-- What is made of a reading does not depend on the host: it is asked only to show values, and no reply to that
counts. -/
theorem run_record (ctx : RunContext) (m : Measurement) (w : Workspace) (s : σ) :
    (((record ctx m).run.run w).run serve s).1 = ending w (recorded ctx w.store m) := by
  rw [record, recorded]
  cases m.chromaticity? with
  | none => rfl
  | some xy =>
    obtain ⟨x, y⟩ := xy
    let status : Item := .string ("x=" ++ x.fixed 4 ++ " y=" ++ y.fixed 4)
    let writes (r : DictRef) : ChainCode Unit := do
      ChainCode.setItem r readingKey (.xyz m)
      ChainCode.setItem r chromaticityKey (.doubleArray [x, y])
    change (((ctx.dict >>= writes).run.run w).run serve
      (serve (.other (.showItem "WhitePoint::status" status)) s).2).1 = _
    have hdict := ChainCode.run_dict ctx w
    cases hfind : w.store.find? ctx.table ctx.dictName with
    | none =>
      rw [hfind] at hdict
      rw [ChainCode.run_bind_of_error hdict]
      rfl
    | some r =>
      rw [hfind] at hdict
      rw [ChainCode.run_bind_of_ok hdict]
      rfl

/-- Code of the plugin looks at its memory first. -/
theorem run_memory (ctx : RunContext) (w : Workspace) : (run ctx).run.run w =
    ((match sensor? w.memory with
      | none => .fail (.missingDependency Attribute.sensor)
      | some name => measure name >>= record ctx : ChainCode Unit)).run.run w := rfl

/-- Without a sensor that was chosen the run fails. -/
theorem run_of_unchosen (ctx : RunContext) (hsensor : sensor? w.memory = none) (s : σ) :
    (((run ctx).run.run w).run serve s).1 = ending w (.error (.missingDependency Attribute.sensor)) := by
  rw [run_memory, hsensor]
  rfl

/-- **A run comes to what the reply to its question comes to.**  With a reading it is `recorded`, without one the
failure that goes with the reply. -/
theorem run_of_reply (ctx : RunContext) {name : String} (hsensor : sensor? w.memory = some name)
    {reply : Option (Except PluginError Measurement)} (hserve : serve (.other (.measure name)) s = (reply, s')) :
    (((run ctx).run.run w).run serve s).1 =
      ending w ((reply.getD (.error (.missingDependency name))).bind (recorded ctx w.store)) := by
  obtain ⟨next, hask, hnone, herror, hok⟩ : ∃ next, (measure name >>= record ctx).run.run w =
      .ask (.other (.measure name)) next ∧ next none = .done (.error (.failed (.missingDependency name)), w) ∧
        (∀ e, next (some (.error e)) = .done (.error (.failed e), w)) ∧
        ∀ m, next (some (.ok m)) = (record ctx m).run.run w :=
    ⟨_, rfl, rfl, fun _ => rfl, fun _ => rfl⟩
  rw [run_memory, hsensor]
  simp only
  rw [hask]
  change ((next (serve (.other (.measure name)) s).1).run serve (serve (.other (.measure name)) s).2).1 = _
  rw [hserve]
  rcases reply with _ | e | m
  · rw [hnone]
    rfl
  · rw [herror]
    rfl
  · rw [hok]
    exact run_record ctx m w s'

end WhitePoint
end Calibration
