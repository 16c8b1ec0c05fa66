/-
# Calls of code that only tends its plugin

Code that asks for nothing has a value and notes lines, whatever roster it runs on (`run_serveLocal_eq`).  A call of it
is therefore told in full by the memory that it begins with (`called_callLocal`): the reply, what becomes of the handle
of the plugin, and what the journal says; all other plugins are as they were.
-/

import Calibration.Chain.Serve
import Calibration.Proofs.Roster.Outline

namespace Calibration

variable {α : Type}

/-- The lines that a program notes. -/
def Task.lines : Task Signature.none.noting α → List String
  | .done _ => []
  | .ask (.note line) next => line :: (next ()).lines
  | .ask (.other q) _ => nomatch q

/-- How the code ends, begun with a memory, and the memory that it leaves. -/
def LocalCode.ending (code : LocalCode α) (memory : Dict) : Except Halt α × Dict := (code.run.run memory).value

/-- The lines that the code notes, begun with a memory. -/
def LocalCode.lines (code : LocalCode α) (memory : Dict) : List String := (code.run.run memory).lines

/-- The handle once code has ended: the memory is kept, and a failure becomes the text of the last failure. -/
def Handle.after (h : Handle) (ending : Except Halt α × Dict) : Handle :=
  { h with
    memory := ending.2
    isBusy := false
    error := match ending.1 with
      | .ok _ => h.error
      | .error halt => some halt.error.message }

namespace Roster

variable {r : Roster} {i k : Nat}

/-- Nothing but the journal tells that code asks for nothing has run. -/
theorem run_serveLocal_eq (t : Task Signature.none.noting α) (r : Roster) :
    t.run serveLocal r = (t.value, { r with journal := r.journal ++ t.lines.map .noted }) := by
  induction t generalizing r with
  | done a => exact Prod.ext rfl (by rw [Task.run, Task.lines, List.map_nil, List.append_nil])
  | ask q next ih =>
    cases q with
    | note line =>
      refine (ih () _).trans (Prod.ext rfl ?_)
      rw [Task.lines, List.map_cons, log, List.append_assoc]
      rfl
    | other q => exact Empty.elim q

/-- A call of the plugin at a place, by what it leaves. -/
structure Called (r : Roster) (i : Nat) (step : Step) (code : LocalCode α) (reply : Except PluginError α)
    (r' : Roster) : Prop where
  result : reply = (code.ending (r.handle i).memory).1.mapError Halt.error
  size : r'.size = r.size
  entry : ∀ k, r'.entry k =
    if k = i ∧ i < r.size then
      { r.entry k with handle := (r.handle k).after (code.ending (r.handle k).memory) }
    else r.entry k
  journal : r'.journal = r.journal ++ .called i step :: (code.lines (r.handle i).memory).map .noted ++
    [.returned i step (fault? reply)]

/-- The end of a call, in one line: the handle keeps its memory and takes over a failure, and the journal tells of it.
-/
theorem leave_eq (r : Roster) (i : Nat) (step : Step) (ending : Except Halt α × Dict) :
    r.leave i step ending.2 ending.1 =
      (ending.1.mapError Halt.error, (r.modifyHandle i fun _ => (r.handle i).after ending).log
        (.returned i step (fault? (ending.1.mapError Halt.error)))) := by
  obtain ⟨_ | _, memory⟩ := ending <;> rfl

/-- **A call is told by the memory that its code begins with.**  What it answers, what it leaves in its memory, and
what it notes down all follow from this. -/
theorem called_callLocal (r : Roster) (i : Nat) (step : Step) (code : LocalCode α) :
    r.Called i step code (r.callLocal i step code).1 (r.callLocal i step code).2 := by
  let ending := code.ending (r.handle i).memory
  let ran : Roster :=
    { r.enter i step with
      journal := (r.enter i step).journal ++ (code.lines (r.handle i).memory).map .noted }
  have hcall : r.callLocal i step code = ran.leave i step ending.2 ending.1 := by
    rw [callLocal, run_serveLocal_eq]
    rfl
  rw [hcall, leave_eq]
  refine ⟨rfl, ?_, fun k => ?_, ?_⟩
  · exact (size_modify ..).trans (size_modify ..)
  · have hentered (k : Nat) : ran.entry k = if k = i ∧ i < r.size then { r.entry k with handle := (r.handle k).enter }
        else r.entry k := entry_modify ..
    have hsize : ran.size = r.size := size_modify ..
    refine (entry_modify ..).trans ?_
    rw [hsize, hentered]
    split_ifs with hk
    · obtain ⟨rfl, hk⟩ := hk
      rw [handle, hentered, if_pos ⟨rfl, hk⟩]
      rfl
    · rfl
  · change (r.journal ++ [.called i step]) ++ _ ++ _ = _
    rw [List.append_assoc r.journal]
    rfl

/-- Who is busy within a call: the plugin that is called, and those who were before. -/
theorem isBusy_enter (r : Roster) (i : Nat) (step : Step) (k : Nat) :
    ((r.enter i step).handle k).isBusy = true ↔ k = i ∧ i < r.size ∨ (r.handle k).isBusy = true := by
  rw [show (r.enter i step).handle k = (r.modifyHandle i Handle.enter).handle k from rfl, handle_modifyHandle]
  split_ifs with hk
  · exact iff_of_true rfl (.inl hk)
  · exact (or_iff_right hk).symm

/-- A call of a plugin that is not busy leaves everybody as busy as before. -/
theorem isBusy_callLocal (h : (r.handle i).isBusy = false) (step : Step) (code : LocalCode α) (k : Nat) :
    ((r.callLocal i step code).2.handle k).isBusy = (r.handle k).isBusy := by
  rw [handle, (called_callLocal r i step code).entry]
  split_ifs with hk
  · rw [hk.1, h]
    rfl
  · rfl

end Roster
end Calibration
