/-
# How code of a chain ends

Code of a plugin runs step by step, and what a step asks of the host may change the run.  Most code asks for nothing but
whether the run is cancelled.  `Ends` says of such code how it ends and what it makes of the store, in every run that is
not cancelled: a row of steps ends as its last step does (`Ends.bind`), or as the first that fails (`Ends.bind_error`).
-/

import Calibration.Proofs.Chain.Calls
import Calibration.Proofs.Store.Tables

namespace Calibration

namespace ChainCode

variable {α β : Type} {s s' s'' : Store}

/-- **In every run that is not cancelled**, the code ends so, makes this of the store, and changes nothing else. -/
def Ends (code : ChainCode α) (s : Store) (result : Except Halt α) (s' : Store) : Prop :=
  ∀ (members : List Nat) (hasRegistry : Bool) (memory : Dict) (run : Run), run.isCancelled = false →
    (code.run.run ⟨memory, s⟩).run (Run.serve members hasRegistry) run = ((result, ⟨memory, s'⟩), run)

/-! ### Rows of steps -/

/-- Code in a row runs one after the other: the second part goes on with the workspace and the run that the first one
leaves, if it has not failed. -/
theorem run_bind (code : ChainCode α) (next : α → ChainCode β) (members : List Nat) (hasRegistry : Bool)
    (w : Workspace) (run : Run) :
    ((code >>= next).run.run w).run (Run.serve members hasRegistry) run =
      let ((result, w), run) := (code.run.run w).run (Run.serve members hasRegistry) run
      ((ExceptT.bindCont next result).run w).run (Run.serve members hasRegistry) run :=
  Task.run_bind (Run.serve members hasRegistry) (code.run.run w) _ run

/-- **A row of steps ends as its last step does**, if the ones before it end well.  Code is followed step by step with
this. -/
theorem Ends.bind {code : ChainCode α} {next : α → ChainCode β} {a : α} {result : Except Halt β}
    (h : Ends code s (.ok a) s') (hnext : Ends (next a) s' result s'') : Ends (code >>= next) s result s'' := by
  intro members hasRegistry memory run hrun
  rw [run_bind, h members hasRegistry memory run hrun]
  exact hnext members hasRegistry memory run hrun

/-- A row of steps ends with the first step that fails; the ones behind it are not made. -/
theorem Ends.bind_error {code : ChainCode α} {next : α → ChainCode β} {halt : Halt}
    (h : Ends code s (.error halt) s') : Ends (code >>= next) s (.error halt) s' := by
  intro members hasRegistry memory run hrun
  rw [run_bind, h members hasRegistry memory run hrun]
  rfl

/-! ### Single steps -/

/-- Code that does nothing ends well. -/
theorem ends_pure (a : α) : Ends (pure a) s (.ok a) s := fun _ _ _ _ _ => rfl

/-- Code that gives up ends with its error and leaves the store as it is. -/
theorem ends_fail (e : PluginError) : Ends (Code.fail e : ChainCode α) s (.error (.failed e)) s := fun _ _ _ _ _ => rfl

/-- A result that is there already is what the code ends with. -/
theorem ends_ofExcept (x : Except PluginError α) : Ends (Code.ofExcept x) s (x.mapError .failed) s := by
  cases x with
  | error e => exact ends_fail e
  | ok a => exact ends_pure a

/-- To look at the store does not change it. -/
theorem ends_store : Ends store s (.ok s) s := fun _ _ _ _ _ => rfl

/-- A change of the store is made at once. -/
theorem ends_onStore (f : Store → α × Store) : Ends (onStore f) s (.ok (f s).1) (f s).2 := fun _ _ _ _ _ => rfl

/-- To read a dict changes nothing. -/
theorem ends_readDict (r : DictRef) : Ends (readDict r) s (.ok (s.dict r)) s := fun _ _ _ _ _ => rfl

/-- An item is set in one dict of the store. -/
theorem ends_setItem (r : DictRef) (key : String) (item : Item) :
    Ends (setItem r key item) s (.ok ()) (s.setDict r ((s.dict r).set key item)) := fun _ _ _ _ _ => rfl

/-- In a run that is not cancelled the answer is no. -/
theorem ends_isCancelled : Ends isCancelled s (.ok false) s := by
  intro members hasRegistry memory run hrun
  change ((Except.ok run.isCancelled, _), _) = _
  rw [hrun]

/-! ### Code that asks for nothing -/

/-- Code that asks for nothing is done, and the code behind it goes on with its result and the workspace that it
leaves. -/
theorem run_bind_of_ok {code : ChainCode α} {a : α} {w w' : Workspace} (h : code.run.run w = .done (.ok a, w'))
    (next : α → ChainCode β) : (code >>= next).run.run w = (next a).run.run w' := by
  change (code.run.run w).bind _ = _
  rw [h]
  rfl

/-- Code that asks for nothing and fails ends the row. -/
theorem run_bind_of_error {code : ChainCode α} {halt : Halt} {w w' : Workspace}
    (h : code.run.run w = .done (.error halt, w')) (next : α → ChainCode β) :
    (code >>= next).run.run w = .done (.error halt, w') := by
  change (code.run.run w).bind _ = _
  rw [h]
  rfl

/-- The chain's dict is found by its name, or else the code fails. -/
theorem run_dict (ctx : RunContext) (w : Workspace) : ctx.dict.run.run w =
    .done (match w.store.find? ctx.table ctx.dictName with
      | some r => .ok r
      | none => .error (.failed (.config ("no dict '" ++ ctx.dictName ++ "'"))), w) := by
  refine (run_bind_of_ok (a := w.store.find? ctx.table ctx.dictName) rfl _).trans ?_
  cases w.store.find? ctx.table ctx.dictName <;> rfl

/-- The chain's dict is there or the code fails, and the store stays as it is. -/
theorem ends_dict (ctx : RunContext) : Ends ctx.dict s
    (match s.find? ctx.table ctx.dictName with
      | some r => .ok r
      | none => .error (.failed (.config ("no dict '" ++ ctx.dictName ++ "'")))) s := by
  intro members hasRegistry memory run _
  rw [run_dict]
  rfl

end ChainCode

/-! ### The call -/

/-- An error of the code's own is the error of the call. -/
theorem mapError_failed {α : Type} (x : Except PluginError α) : (x.mapError .failed).mapError Halt.error = x := by
  cases x <;> rfl

/-- What a call gives is how its code ended. -/
theorem Run.result_call (ctx : RunContext) (members : List Nat) (stage : RunStage) (run : Run) (i : Nat) :
    (run.call ctx members stage i).1.result = (ended ctx members stage run i).1.1.mapError Halt.error := by
  rw [outcome_call, observe, Call.outcome]
  cases (ended ctx members stage run i).1.1 <;> rfl

/-- The store after a call is the one that its code leaves. -/
theorem Run.store_call (ctx : RunContext) (members : List Nat) (stage : RunStage) (run : Run) (i : Nat) :
    (run.call ctx members stage i).2.store = (ended ctx members stage run i).1.2.store := rfl

/-- A call ends as the plugin's code does, and leaves the store that this leaves. -/
theorem Run.call_of_ended {ctx : RunContext} {members : List Nat} {stage : RunStage} {run : Run} {i : Nat}
    {s' : Store} {result : Except Halt Unit} (h : ended ctx members stage run i =
      ((result, ⟨(run.roster.handle i).memory, s'⟩), entered stage run i)) :
    (run.call ctx members stage i).1.result = result.mapError Halt.error ∧
      (run.call ctx members stage i).2.store = s' ∧
      (run.call ctx members stage i).2.isCancelled = run.isCancelled := by
  refine ⟨?_, ?_, ?_⟩
  · rw [result_call, h]
  · rw [store_call, h]
  · exact congrArg (fun e : (Except Halt Unit × Workspace) × Run => e.2.isCancelled) h

/-- A call whose code asks for nothing ends as the code does, and leaves the store that this leaves. -/
theorem Run.call_of_done {ctx : RunContext} (members : List Nat) {stage : RunStage} {run : Run} {i : Nat}
    {s' : Store} {result : Except Halt Unit}
    (h : program ctx stage run i = .done (result, ⟨(run.roster.handle i).memory, s'⟩)) :
    (run.call ctx members stage i).1.result = result.mapError Halt.error ∧
      (run.call ctx members stage i).2.store = s' ∧
      (run.call ctx members stage i).2.isCancelled = run.isCancelled := by
  have hended : ended ctx members stage run i =
      ((result, ⟨(run.roster.handle i).memory, s'⟩), entered stage run i) := by
    rw [ended, h]
    rfl
  exact call_of_ended hended

/-- **A call in a run that is not cancelled** ends as the plugin's code does, and leaves the store that this leaves.
The code is followed on its own, without the run around it. -/
theorem Run.call_of_ends {ctx : RunContext} (members : List Nat) {stage : RunStage} {run : Run} {i : Nat}
    {s' : Store} {result : Except Halt Unit} (hcancel : run.isCancelled = false)
    (h : ChainCode.Ends ((run.roster.handle i).plugin.code stage ctx) run.store result s') :
    (run.call ctx members stage i).1.result = result.mapError Halt.error ∧
      (run.call ctx members stage i).2.store = s' ∧ (run.call ctx members stage i).2.isCancelled = false := by
  rw [← hcancel]
  exact call_of_ended (h members _ _ (entered stage run i) hcancel)

end Calibration
