/-
# A roster that follows its courses

The roster follows the courses of its plugins when the journal is in order and each plugin is in the state of its
course.  What can happen to a plugin is said once for each kind: a call begins (`Follows.enter`), a call ends
(`Follows.leave`), the plugin takes a step in its lifecycle (`Follows.move`).  Each is in order if the course of that
plugin allows it, and leaves all other courses alone.  Between two operations the course is the one that the state
says (`Orderly`); then a phase that begins and ends leads from one such course to another (`Orderly.phase`).
-/

import Calibration.Proofs.Roster.Course
import Calibration.Proofs.Roster.Outline
import Mathlib.Logic.Function.Basic

namespace Calibration

namespace BringUpStage

/-- The state that a plugin enters when a phase has ended well. -/
def exit : BringUpStage → Lifecycle
  | postLoad => .postLoaded
  | checkDeps => .depsChecked
  | postCheckDeps => .depsFinalized

end BringUpStage

namespace Course

/-- The course of a plugin that rests in a state. -/
def resting : Lifecycle → Course
  | .loaded => ready .postLoad
  | .postLoaded => ready .checkDeps
  | .depsChecked => ready .postCheckDeps
  | .depsFinalized => finalized
  | .runnable => runnable
  | .rejected stage reason => rejected stage reason

/-- A plugin rests in the state that is said. -/
theorem state_resting (s : Lifecycle) : (resting s).state = s := by
  cases s <;> rfl

/-- Who rests before a phase is ready for it. -/
theorem resting_entry (stage : BringUpStage) : resting stage.entry = ready stage := by
  cases stage <;> rfl

/-- Who has passed a phase enters the state behind it. -/
theorem move_passed (stage : BringUpStage) : (passed stage).move stage.exit = some (resting stage.exit) := by
  cases stage <;> rfl

/-- Who has failed in a phase is rejected for it, with the message of the failure. -/
theorem move_failed (stage : BringUpStage) (message : String) :
    (failed stage message).move (.rejected stage message) = some (resting (.rejected stage message)) :=
  if_pos ⟨rfl, rfl⟩

/-- A step in order is one that the lifecycle allows. -/
theorem canEnter_of_move {σ τ : Course} {next : Lifecycle} (h : σ.move next = some τ) : σ.state.canEnter next := by
  unfold move at h
  split at h
  case h_5 stage _ _ _ => cases stage <;> rfl
  case h_8 => exact nomatch h
  all_goals rfl

end Course

namespace Roster

/-- The journal is in order and each plugin has come as far as its course says; a rejected plugin keeps the reason. -/
structure Follows (r : Roster) (σ : Nat → Course) : Prop where
  course : ∀ k, r.course k = some (σ k)
  state : ∀ k, (r.handle k).state = (σ k).state
  error : ∀ k stage reason, (r.handle k).state = .rejected stage reason → (r.handle k).error = some reason

variable {r r' : Roster} {σ σ' : Nat → Course} {τ : Course} {i : Nat} {step : Step}

/-- One event more in the journal is one step more of each course. -/
theorem course_log (event : Event) (k : Nat) :
    (r.log event).course k = (r.course k).bind (Course.next k · event) :=
  Course.follow_append ..

namespace Follows

/-- Whether a roster follows its courses is told by its journal, its states and its last failures. -/
theorem congr (h : r.Follows σ) (hjournal : r'.journal = r.journal)
    (hstate : ∀ k, (r'.handle k).state = (r.handle k).state) (herror : ∀ k, (r'.handle k).error = (r.handle k).error) :
    r'.Follows σ := by
  constructor
  · intro k
    rw [Roster.course, hjournal]
    exact h.course k
  · intro k
    rw [hstate]
    exact h.state k
  · intro k stage reason hs
    rw [herror]
    exact h.error k stage reason (hstate k ▸ hs)

/-- Courses are told place by place. -/
theorem eq_of (h : r.Follows σ) (he : ∀ k, σ k = σ' k) : r.Follows σ' := funext he ▸ h

/-- A plugin notes a line. -/
theorem noted (h : r.Follows σ) (line : String) : (r.log (.noted line)).Follows σ where
  course k := by
    rw [course_log, h.course]
    rfl
  state := h.state
  error := h.error

/-- **An event about one plugin** moves the course of that plugin, and leaves all others alone.  Every kind of step
below is an instance. -/
theorem extend {e : Event} (h : r.Follows σ) (hjournal : r'.journal = r.journal ++ [e])
    (hnext : (σ i).next i e = some τ)
    (hconcerns : ∀ k, k ≠ i → e.concerns k = false)
    (hother : ∀ k, k ≠ i → (r'.handle k).state = (r.handle k).state ∧ (r'.handle k).error = (r.handle k).error)
    (hstate : (r'.handle i).state = τ.state)
    (herror : ∀ stage reason, τ.state = .rejected stage reason → (r'.handle i).error = some reason) :
    r'.Follows (Function.update σ i τ) := by
  constructor
  · intro k
    have hcourse : r'.course k = (r.course k).bind (Course.next k · e) := by
      rw [Roster.course, hjournal]
      exact Course.follow_append ..
    rw [hcourse, h.course, Option.bind_some]
    by_cases hk : k = i
    · subst hk
      rw [hnext, Function.update_self]
    · rw [Course.next_of_not_concerns (hconcerns k hk), Function.update_of_ne hk]
  · intro k
    by_cases hk : k = i
    · subst hk
      rw [hstate, Function.update_self]
    · rw [(hother k hk).1, h.state, Function.update_of_ne hk]
  · intro k stage reason hs
    by_cases hk : k = i
    · subst hk
      exact herror stage reason (hstate ▸ hs)
    · rw [(hother k hk).1] at hs
      rw [(hother k hk).2]
      exact h.error k stage reason hs

/-- **A call begins**, if the course of the plugin allows it.  The others are where they were. -/
theorem enter (h : r.Follows σ) (hcall : (σ i).call step = some τ) :
    (r.enter i step).Follows (Function.update σ i τ) := by
  have hstate : τ.state = (σ i).state := by
    rcases Course.call_eq_some hcall with ⟨stage, hσ, -, rfl⟩ | ⟨hσ, -, rfl⟩ <;> rw [hσ]
    rfl
  have hhandle : ∀ k, ((r.enter i step).handle k).state = (r.handle k).state ∧
      ((r.enter i step).handle k).error = (r.handle k).error := by
    intro k
    change ((r.modifyHandle i Handle.enter).handle k).state = _ ∧ ((r.modifyHandle i Handle.enter).handle k).error = _
    rw [handle_modifyHandle]
    split_ifs <;> exact ⟨rfl, rfl⟩
  refine h.extend (e := .called i step) rfl ?_ (fun k hk => decide_eq_false (Ne.symm hk)) (fun k _ => hhandle k) ?_ ?_
  · rw [Course.next, if_pos rfl]
    exact hcall
  · rw [(hhandle i).1, h.state, hstate]
  · intro stage reason hs
    rw [(hhandle i).2]
    refine h.error i stage reason ?_
    rw [h.state, ← hstate]
    exact hs

/-- **A call ends**, and the last failure is the one that it ended with.  A call that ends well leaves the last
failure as it was. -/
theorem leave {α : Type} (h : r.Follows σ) (memory : Dict) (result : Except Halt α)
    (hleave : (σ i).leave step (fault? (r.leave i step memory result).1) = some τ) :
    (r.leave i step memory result).2.Follows (Function.update σ i τ) := by
  have hσ : τ.state.isRejected = false ∧ τ.state = (σ i).state := by
    rcases Course.leave_eq_some hleave with ⟨stage, hσ, -, ⟨-, rfl⟩ | ⟨_, -, rfl⟩⟩ | ⟨hσ, -, rfl⟩ <;> rw [hσ]
    · exact ⟨by cases stage <;> rfl, rfl⟩
    · exact ⟨by cases stage <;> rfl, rfl⟩
    · exact ⟨rfl, rfl⟩
  have hstate := state_of_outlines_eq (outlines_leave r i step memory result)
  have herror : ∀ k, k ≠ i → ((r.leave i step memory result).2.handle k).error = (r.handle k).error := by
    intro k hk
    have hput : ∀ handle : Handle, ((r.modifyHandle i fun _ => handle).handle k).error = (r.handle k).error := by
      intro handle
      rw [handle_modifyHandle, if_neg fun h => hk h.1]
    exact hput _
  refine h.extend (e := .returned i step _) rfl ?_ (fun k hk => decide_eq_false (Ne.symm hk))
    (fun k hk => ⟨hstate k, herror k hk⟩) ?_ ?_
  · rw [Course.next, if_pos rfl]
    exact hleave
  · rw [hstate, h.state, hσ.2]
  · -- A plugin that was called is not rejected.
    intro stage reason hs
    simp [hs, Lifecycle.isRejected] at hσ

/-- **A plugin takes a step in its lifecycle**, if its course allows it; then the lifecycle does, too.  So none of the
moves that are made in bring-up is refused. -/
theorem move {next : Lifecycle} (h : r.Follows σ) (hi : i < r.size) (hmove : (σ i).move next = some τ) :
    (r.move i next).Follows (Function.update σ i τ) := by
  have hcan : (r.handle i).state.canEnter next := by
    rw [h.state]
    exact Course.canEnter_of_move hmove
  have hτ : τ.state = next := (Course.move_eq_some hmove).1
  have hhandle : ∀ k, (r.move i next).handle k =
      if k = i ∧ i < r.size then (r.handle k).moved next else r.handle k := by
    intro k
    rw [Roster.move, if_pos hcan]
    exact handle_modifyHandle r i k (·.moved next)
  have hself : (r.move i next).handle i = (r.handle i).moved next := (hhandle i).trans (if_pos ⟨rfl, hi⟩)
  refine h.extend (e := .moved i next) ?_ ?_ (fun k hk => decide_eq_false (Ne.symm hk)) ?_ ?_ ?_
  · rw [Roster.move, if_pos hcan]
    rfl
  · rw [Course.next, if_pos rfl]
    exact hmove
  · intro k hk
    rw [hhandle, if_neg fun h => hk h.1]
    exact ⟨rfl, rfl⟩
  · rw [hself, Handle.state_moved, if_pos hcan, hτ]
  · intro stage reason hs
    obtain rfl : next = .rejected stage reason := hτ.symm.trans hs
    rw [hself, Handle.moved, Handle.transition, if_pos hcan]

/-- Code that only tends its own plugin is called. -/
theorem callLocal {α : Type} (h : r.Follows σ) (code : LocalCode α) {τ' : Course}
    (hcall : (σ i).call step = some τ) (hleave : τ.leave step (fault? (r.callLocal i step code).1) = some τ') :
    (r.callLocal i step code).2.Follows (Function.update σ i τ') := by
  have hnoted : ∀ (q : Signature.none.noting.Request) (s : Roster), s.Follows (Function.update σ i τ) →
      (serveLocal q s).2.Follows (Function.update σ i τ) := by
    rintro (line | q) s h
    · exact h.noted line
    · exact nomatch q
  have hrun := Task.run_preserves hnoted (code.run.run (r.handle i).memory) (h.enter hcall)
  have hend : (r.callLocal i step code).2.Follows (Function.update (Function.update σ i τ) i τ') := by
    refine hrun.leave _ _ ?_
    rw [Function.update_self]
    exact hleave
  exact hend.eq_of fun k => by rw [Function.update_idem]

/-- A runnable plugin is called outside of bring-up. -/
theorem enter_runnable (h : r.Follows σ) (hi : σ i = .runnable) (hstep : step.isBringUp = false) :
    (r.enter i step).Follows σ := by
  have hcall : (σ i).call step = some (σ i) := by
    rw [hi]
    exact Course.call_runnable hstep
  exact (h.enter hcall).eq_of fun k => by rw [Function.update_eq_self]

/-- A call of a runnable plugin ends, well or not. -/
theorem leave_runnable {α : Type} (h : r.Follows σ) (hi : σ i = .runnable) (hstep : step.isBringUp = false)
    (memory : Dict) (result : Except Halt α) : (r.leave i step memory result).2.Follows σ := by
  have hleave : (σ i).leave step (fault? (r.leave i step memory result).1) = some (σ i) := by
    rw [hi]
    exact Course.leave_runnable hstep _
  exact (h.leave memory result hleave).eq_of fun k => by rw [Function.update_eq_self]

/-- A runnable plugin is called from beginning to end. -/
theorem callLocal_runnable {α : Type} (h : r.Follows σ) (hi : σ i = .runnable) (hstep : step.isBringUp = false)
    (code : LocalCode α) : (r.callLocal i step code).2.Follows σ := by
  have hcall : (σ i).call step = some .runnable := by
    rw [hi]
    exact Course.call_runnable hstep
  refine (h.callLocal code hcall (Course.leave_runnable hstep _)).eq_of fun k => ?_
  rw [← hi, Function.update_eq_self]

end Follows

/-- Between two operations the course of each plugin is the one that its state says. -/
def Orderly (r : Roster) : Prop := r.Follows fun k => .resting (r.handle k).state

/-- A roster is at rest if each course is that of a state. -/
theorem Follows.orderly (h : r.Follows σ) (hσ : ∀ k, σ k = .resting (σ k).state) : r.Orderly := by
  refine h.eq_of ?_
  intro k
  rw [h.state, ← hσ]

/-- **A phase of bring-up**: a plugin that rests before it is called, and enters the state after it or is rejected.
Both phases with calls of their own, loading and the late check, are of this kind. -/
theorem Orderly.phase (h : r.Orderly) (stage : BringUpStage) (hi : i < r.size) (hs : (r.handle i).state = stage.entry)
    (code : LocalCode Unit) :
    match r.callLocal i (.bringUp stage) code with
    | (.ok _, r') => (r'.move i stage.exit).Orderly
    | (.error e, r') => (r'.move i (.rejected stage e.message)).Orderly := by
  have hcall : (Course.resting (r.handle i).state).call (.bringUp stage) = some (.called stage) := by
    rw [hs, Course.resting_entry, Course.call_ready]
  have hsize := size_of_outlines_eq (outlines_callLocal r i (.bringUp stage) code)
  have hrest : ∀ (τ : Course) (next : Lifecycle) (r' : Roster), r'.size = r.size →
      r'.Follows (Function.update (fun k => .resting (r.handle k).state) i τ) → τ.move next = some (.resting next) →
        (r'.move i next).Orderly := by
    intro τ next r' hsize h hmove
    have hmoved := h.move (i := i) (hsize ▸ hi) (by rw [Function.update_self]; exact hmove)
    refine hmoved.orderly ?_
    intro k
    rw [Function.update_idem]
    by_cases hk : k = i
    · subst hk
      rw [Function.update_self, Course.state_resting]
    · rw [Function.update_of_ne hk, Course.state_resting]
  have hpassed : fault? (r.callLocal i (.bringUp stage) code).1 = none →
      (r.callLocal i (.bringUp stage) code).2.Follows
        (Function.update (fun k => .resting (r.handle k).state) i (.passed stage)) := by
    intro hf
    exact Follows.callLocal h code hcall (hf ▸ Course.leave_called_none stage)
  have hfailed : ∀ e, fault? (r.callLocal i (.bringUp stage) code).1 = some e →
      (r.callLocal i (.bringUp stage) code).2.Follows
        (Function.update (fun k => .resting (r.handle k).state) i (.failed stage e.message)) := by
    intro e hf
    exact Follows.callLocal h code hcall (hf ▸ Course.leave_called_some stage e)
  split
  · next a r' heq =>
    rw [heq] at hpassed hsize
    exact hrest _ _ r' hsize (hpassed rfl) (Course.move_passed stage)
  · next e r' heq =>
    rw [heq] at hfailed hsize
    exact hrest _ _ r' hsize (hfailed e rfl) (Course.move_failed stage e.message)

/-- **A walk that brings each place to rest** leaves everybody at rest.  A step is shown to do so from a state in
which its own place is as it was in the beginning, which no earlier step has touched. -/
theorem orderly_foldl_range {step : Roster → Nat → Roster} (h : r.Follows σ)
    (hbeyond : ∀ k, r.size ≤ k → σ k = .resting (σ k).state)
    (hstep : ∀ (r' : Roster) σ' i, i < r.size → r'.size = r.size → r'.Follows σ' → σ' i = σ i →
      (step r' i).size = r'.size ∧ ∃ s, (step r' i).Follows (Function.update σ' i (.resting s))) :
    ((List.range r.size).foldl step r).Orderly := by
  have hwalk : ∀ n, n ≤ r.size → ∃ σ', ((List.range n).foldl step r).Follows σ' ∧
      ((List.range n).foldl step r).size = r.size ∧ (∀ k, k < n → ∃ s, σ' k = .resting s) ∧
        ∀ k, n ≤ k → σ' k = σ k := by
    intro n
    induction n with
    | zero => exact fun _ => ⟨σ, h, rfl, fun k hk => absurd hk (Nat.not_lt_zero k), fun _ _ => rfl⟩
    | succ n ih =>
      intro hn
      obtain ⟨σ', hσ', hsize, hdone, hlater⟩ := ih (Nat.le_of_succ_le hn)
      rw [List.range_succ, List.foldl_append, List.foldl_cons, List.foldl_nil]
      obtain ⟨hsize', s, hs⟩ := hstep _ σ' n hn hsize hσ' (hlater n (Nat.le_refl n))
      refine ⟨_, hs, hsize'.trans hsize, ?_, ?_⟩
      · intro k hk
        by_cases hkn : k = n
        · subst hkn
          exact ⟨s, Function.update_self ..⟩
        · rw [Function.update_of_ne hkn]
          exact hdone k (by omega)
      · intro k hk
        rw [Function.update_of_ne (by omega)]
        exact hlater k (by omega)
  obtain ⟨σ', hσ', -, hdone, hlater⟩ := hwalk r.size (Nat.le_refl _)
  refine hσ'.orderly ?_
  intro k
  rcases Nat.lt_or_ge k r.size with hk | hk
  · obtain ⟨s, hs⟩ := hdone k hk
    rw [hs, Course.state_resting]
  · rw [hlater k hk]
    exact hbeyond k hk

/-- A roster without plugins is at rest. -/
theorem orderly_empty : ({} : Roster).Orderly := by
  constructor
  · intro k
    rfl
  · intro k
    rfl
  · intro k stage reason hs
    exact nomatch hs

/-- **Loading a plugin** calls it in its first phase.  Its course begins with the load, and ends in its first state of
rest. -/
theorem Orderly.add (h : r.Orderly) (plugin : Plugin) (origin : Origin) (version? : Option (Nat × Nat)) :
    (r.add plugin origin version?).Orderly := by
  let e : Entry := { handle := .ofPlugin plugin, origin, version? }
  let r₀ : Roster := { r with entries := r.entries ++ [e] }
  have hhandle : ∀ k, r₀.handle k = if k = r.size then .ofPlugin plugin else r.handle k := by
    intro k
    rw [handle, entry_append]
    split_ifs <;> rfl
  have hnew : r.handle r.size = default := by
    rw [handle, entry, List.getElem?_eq_none (show r.entries.length ≤ r.size from Nat.le_refl _)]
    rfl
  have hfollows : r₀.Follows fun k => .resting (r.handle k).state := by
    refine Follows.congr h rfl ?_ ?_
    · intro k
      rw [hhandle]
      split_ifs with hk
      · rw [hk, hnew]
        rfl
      · rfl
    · intro k
      rw [hhandle]
      split_ifs with hk
      · rw [hk, hnew]
        rfl
      · rfl
  have horderly : r₀.Orderly := hfollows.orderly fun k => by rw [Course.state_resting]
  have hsize : r.size < r₀.size := by
    simp only [r₀, size, List.length_append, List.length_singleton]
    omega
  have hphase := horderly.phase .postLoad hsize (by rw [hhandle, if_pos rfl]; rfl) plugin.postLoad
  rw [Roster.add]
  split <;> next heq =>
    rw [show r₀.callLocal r.size _ _ = _ from heq] at hphase
    exact hphase

end Roster
end Calibration
