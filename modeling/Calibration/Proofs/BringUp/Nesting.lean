/-
# Dependency checks inside one another

The journal tells of every call of a dependency check and of its end.  The calls of a walk are nested (`Nested`):
within the call of a plugin only other plugins are called, and all of them were pending before.  So no plugin is
called while its own check is under way, and those under way at one moment are no more than the plugins that were
pending at first (`Nested.always`).  One check is nested (`nests_pass`), so the whole walk is, and the later phases of
bring-up make no such calls (`nested_bringUp`).

With the walk and the loops that pass rejections on, all of bring-up comes to an end (`bringUp_ends`).
-/

import Calibration.Proofs.BringUp.Loops
import Calibration.Proofs.BringUp.Recursion
import Mathlib.Data.List.Perm.Subperm

namespace Calibration

namespace Event

/-- The event is the begin or the end of a dependency check. -/
def isOfCheck : Event → Bool
  | .called _ (.bringUp .checkDeps) | .returned _ (.bringUp .checkDeps) _ => true
  | _ => false

/-- The plugins whose dependency checks are under way after one more event, the last to be called first. -/
def underWay (calls : List Nat) : Event → List Nat
  | .called i (.bringUp .checkDeps) => i :: calls
  | .returned i (.bringUp .checkDeps) _ => calls.erase i
  | _ => calls

/-- No other event changes which dependency checks are under way. -/
theorem underWay_of_not_isOfCheck {e : Event} (h : e.isOfCheck = false) (calls : List Nat) :
    e.underWay calls = calls := by
  unfold underWay
  split
  · exact nomatch h
  · exact nomatch h
  · rfl

end Event

namespace BringUp

/-! ### Nested calls -/

/-- Something holds of the calls under way at each moment of some events. -/
def Always (P : List Nat → Prop) : List Nat → List Event → Prop
  | calls, [] => P calls
  | calls, e :: events => P calls ∧ Always P (e.underWay calls) events

section Always

variable {P Q : List Nat → Prop} {calls : List Nat} {before after : List Event}

/-- What holds at each moment of two rows of events holds at each moment of both together. -/
theorem always_append : Always P calls before → Always P (before.foldl Event.underWay calls) after →
    Always P calls (before ++ after) := by
  induction before generalizing calls with
  | nil => exact fun _ h => h
  | cons e before ih => exact fun h h' => ⟨h.1, ih h.2 h'⟩

/-- What holds at each moment may be said less sharply. -/
theorem Always.mono (h : Always P calls before) (hPQ : ∀ calls, P calls → Q calls) : Always Q calls before := by
  induction before generalizing calls with
  | nil => exact hPQ _ h
  | cons e before ih => exact ⟨hPQ _ h.1, ih h.2⟩

/-- What holds at each moment of some events holds when the first of them are over. -/
theorem Always.of_append (h : Always P calls (before ++ after)) : P (before.foldl Event.underWay calls) := by
  induction before generalizing calls with
  | nil =>
    cases after with
    | nil => exact h
    | cons e after => exact h.1
  | cons e before ih => exact ih h.2

end Always

/-- Events in which calls of dependency checks are nested: the plugin that is called is one of some, and within its call
only the others of them are called. -/
inductive Nested : (Nat → Prop) → List Event → Prop
  | nil {A : Nat → Prop} : Nested A []
  | other {A : Nat → Prop} {e : Event} {events : List Event} (he : e.isOfCheck = false) (h : Nested A events) :
      Nested A (e :: events)
  | call {A : Nat → Prop} {i : Nat} {fault? : Option PluginError} {inner events : List Event} (hi : A i)
      (hinner : Nested (fun j => A j ∧ j ≠ i) inner) (h : Nested A events) :
      Nested A (.called i (.bringUp .checkDeps) :: (inner ++ .returned i (.bringUp .checkDeps) fault? :: events))

namespace Nested

variable {A B : Nat → Prop} {events later : List Event} {calls : List Nat}

/-- Nested calls may follow on one another. -/
theorem append (h : Nested A events) (h' : Nested A later) : Nested A (events ++ later) := by
  induction h with
  | nil => exact h'
  | other he _ ih => exact .other he (ih h')
  | call hi hinner _ _ ih =>
    rw [List.cons_append, List.append_assoc, List.cons_append]
    exact .call hi hinner (ih h')

/-- Nested calls of some plugins are nested calls of more. -/
theorem mono (h : Nested A events) (hAB : ∀ j, A j → B j) : Nested B events := by
  induction h generalizing B with
  | nil => exact .nil
  | other he _ ih => exact .other he (ih hAB)
  | call hi _ _ ihinner ih => exact .call (hAB _ hi) (ihinner fun j hj => ⟨hAB j hj.1, hj.2⟩) (ih hAB)

/-- **No plugin is called within its own call**: at each moment those under way are some that may be called, each
once, before the ones that were under way at first, and in the end these are left.  The induction is on the way the
calls are nested, so that within a call its plugin is no longer one that may be called. -/
theorem always (h : Nested A events) (hcalls : calls.Nodup) (hnot : ∀ j ∈ calls, ¬ A j) :
    events.foldl Event.underWay calls = calls ∧
      Always (fun now => ∃ inner, now = inner ++ calls ∧ now.Nodup ∧ ∀ j ∈ inner, A j) calls events := by
  have hstart : ∃ inner, calls = inner ++ calls ∧ calls.Nodup ∧ ∀ j ∈ inner, A j := ⟨[], rfl, hcalls, nofun⟩
  induction h generalizing calls with
  | nil => exact ⟨rfl, hstart⟩
  | other he _ ih =>
    rw [List.foldl_cons, Event.underWay_of_not_isOfCheck he]
    obtain ⟨hend, hthen⟩ := ih hcalls hnot hstart
    refine ⟨hend, hstart, ?_⟩
    rw [Event.underWay_of_not_isOfCheck he]
    exact hthen
  | @call A i fault? inner events hi _ _ ihinner ih =>
    have hbegun : (i :: calls).Nodup := List.nodup_cons.2 ⟨fun hmem => hnot i hmem hi, hcalls⟩
    have hwithin : ∀ j ∈ i :: calls, ¬ (A j ∧ j ≠ i) := by
      intro j hj hA
      rcases List.mem_cons.1 hj with rfl | hj
      · exact hA.2 rfl
      · exact hnot j hj hA.1
    obtain ⟨hback, hinner⟩ := ihinner hbegun hwithin ⟨[], rfl, hbegun, nofun⟩
    obtain ⟨hend, hthen⟩ := ih hcalls hnot hstart
    have hreturn : Event.underWay (i :: calls) (.returned i (.bringUp .checkDeps) fault?) = calls :=
      List.erase_cons_head ..
    have hdeeper : Always (fun now => ∃ inner, now = inner ++ calls ∧ now.Nodup ∧ ∀ j ∈ inner, A j) (i :: calls)
        inner := by
      refine hinner.mono ?_
      rintro _ ⟨inner, rfl, hnodup, hA⟩
      refine ⟨inner ++ [i], by rw [List.append_assoc]; rfl, hnodup, fun j hj => ?_⟩
      rcases List.mem_append.1 hj with hj | hj
      · exact (hA j hj).1
      · exact List.mem_singleton.1 hj ▸ hi
    constructor
    · rw [List.foldl_cons, List.foldl_append]
      change (Event.returned i _ fault? :: events).foldl Event.underWay
        (inner.foldl Event.underWay (i :: calls)) = calls
      rw [hback, List.foldl_cons, hreturn]
      exact hend
    · refine ⟨hstart, always_append hdeeper ?_⟩
      change Always _ (inner.foldl Event.underWay (i :: calls)) _
      rw [hback]
      refine ⟨⟨[i], rfl, hbegun, fun j hj => List.mem_singleton.1 hj ▸ hi⟩, ?_⟩
      rw [hreturn]
      exact hthen

end Nested
end BringUp

namespace Roster

open BringUp

variable {r r' r'' : Roster} {A B : Nat → Prop}

/-- What has come into the journal since, has come in nested calls of some plugins. -/
def Continues (A : Nat → Prop) (r r' : Roster) : Prop := ∃ events, r'.journal = r.journal ++ events ∧ Nested A events

/-- Nothing new in the journal is nested. -/
theorem Continues.refl (A : Nat → Prop) (r : Roster) : r.Continues A r := ⟨[], (List.append_nil _).symm, .nil⟩

/-- What has come in nested calls, and later in further ones, has come in nested calls. -/
theorem Continues.trans (h : Continues A r r') (h' : Continues A r' r'') : Continues A r r'' := by
  obtain ⟨events, hj, hn⟩ := h
  obtain ⟨later, hj', hn'⟩ := h'
  exact ⟨events ++ later, by rw [hj', hj, List.append_assoc], hn.append hn'⟩

/-- The plugins that may be called may be more. -/
theorem Continues.mono (h : Continues A r r') (hAB : ∀ j, A j → B j) : Continues B r r' := by
  obtain ⟨events, hj, hn⟩ := h
  exact ⟨events, hj, hn.mono hAB⟩

/-- A line in the journal that tells of no dependency check. -/
theorem continues_log {e : Event} (he : e.isOfCheck = false) : Continues A r (r.log e) := ⟨[e], rfl, .other he .nil⟩

/-- A move of a plugin is told in no such line. -/
theorem continues_move (i : Nat) (next : Lifecycle) : Continues A r (r.move i next) := by
  rw [move]
  split_ifs
  · exact continues_log (r := r.modifyHandle i (·.moved next)) rfl
  · exact .refl A r

/-- A call of other code of a plugin. -/
theorem continues_callLocal {α : Type} (i : Nat) {step : Step} (hstep : step ≠ .bringUp .checkDeps)
    (code : LocalCode α) : Continues A r (r.callLocal i step code).2 := by
  have hcalled : (Event.called i step).isOfCheck = false := by
    unfold Event.isOfCheck
    split <;> simp_all
  have hreturned : ∀ fault, (Event.returned i step fault).isOfCheck = false := fun fault => by
    unfold Event.isOfCheck
    split <;> simp_all
  have henter : Continues A r (r.enter i step) := continues_log (r := r.modifyHandle i Handle.enter) hcalled
  have hserve : ∀ (q : Signature.none.noting.Request) (s : Roster), Continues A r s →
      Continues A r (serveLocal q s).2 := by
    rintro (line | q) s h
    · exact h.trans (continues_log rfl)
    · exact nomatch q
  have hrun := Task.run_preserves hserve (code.run.run (r.handle i).memory) henter
  exact hrun.trans ⟨_, rfl, .other (hreturned _) .nil⟩

/-- A row of steps without dependency checks has none either. -/
theorem continues_foldl {β : Type} {step : Roster → β → Roster} (hstep : ∀ r b, Continues A r (step r b)) (bs : List β)
    (r : Roster) : Continues A r (bs.foldl step r) :=
  List.foldlRecOn (motive := Continues A r) bs step (.refl A r) fun r' h b _ => h.trans (hstep r' b)

end Roster

namespace BringUp
namespace Check

variable {c c' c'' : Check} {ask : Nat → Check → Bool × Check} {i j : Nat}

/-! ### The walk -/

/-- From a moment of the walk to a later one nobody has become pending, and those who were called were pending. -/
structure Nests (c c' : Check) : Prop where
  pending : ∀ j, c'.mark j = .pending → c.mark j = .pending
  journal : Roster.Continues (fun j => c.mark j = .pending) c.roster c'.roster

namespace Nests

/-- At the same moment nothing has happened. -/
theorem refl (c : Check) : Nests c c := ⟨fun _ h => h, .refl _ _⟩

/-- From one moment to a later one, and on to another. -/
theorem trans (h : Nests c c') (h' : Nests c' c'') : Nests c c'' :=
  ⟨fun j hj => h.pending j (h'.pending j hj), h.journal.trans (h'.journal.mono h.pending)⟩

end Nests

/-- A program makes calls only by its requests, and these are nested if checks are. -/
theorem nests_run (hask : ∀ j c, Nests c (ask j c).2) {α : Type} (t : Task needSignature.noting α) (c : Check) :
    Nests c (t.run (serve ask i) c).2 :=
  Task.run_preserves (P := Nests c)
    (fun q _ h => serve_preserves (P := Nests c) (fun j c' h => h.trans (hask j c'))
      (fun _ _ h => ⟨h.pending, h.journal⟩)
      (fun _ _ h => ⟨h.pending, h.journal.trans (Roster.continues_log rfl)⟩) h q) t (.refl c)

/-- Whoever is still pending once another plugin has its mark was pending before, and is another one. -/
theorem pending_of_setMark {m : Mark} (hm : m ≠ .pending) (h : (c.setMark i m).mark j = .pending) :
    c.mark j = .pending ∧ j ≠ i := by
  by_cases hj : i = j
  · subst hj
    have hi : i < (c.setMark i m).marks.length := lt_length_of_mark_eq_pending h
    rw [setMark, List.length_set] at hi
    rw [mark_setMark m hi, if_pos rfl] at h
    exact absurd h hm
  · rw [mark, setMark, List.getElem?_set_ne hj] at h
    exact ⟨h, Ne.symm hj⟩

/-- The end of a call is what comes last into the journal. -/
theorem journal_callCheck (ask : Nat → Check → Bool × Check) (i : Nat) (c : Check) :
    ∃ fault?, (callCheck ask i c).2.roster.journal =
      ((c.program i).run (serve ask i) (c.entered i)).2.roster.journal ++ [.returned i (.bringUp .checkDeps) fault?] :=
  ⟨_, rfl⟩

/-- **A check is one nested call**, if it is any: its plugin was pending, and whoever is called meanwhile was pending
and is another one, as the mark of the plugin is set before its code begins. -/
theorem nests_pass (depth i : Nat) (c : Check) : Nests c (pass depth i c).2 := by
  refine pass_relates .refl (fun d i c ih hm result c' heq => ?_) depth i c
  have hran := nests_run (i := i) ih ((c.setMark i .inProgress).program i) ((c.setMark i .inProgress).entered i)
  have hmarks : c'.marks = _ := (congrArg (fun p => p.2.marks) heq).symm
  obtain ⟨fault?, hback⟩ := journal_callCheck (pass d) i (c.setMark i .inProgress)
  obtain ⟨events, hevents, hnested⟩ := hran.journal
  have hinner : Nested (fun j => c.mark j = .pending ∧ j ≠ i) events :=
    hnested.mono fun j hj => pending_of_setMark (by decide) hj
  constructor
  · intro j hj
    have hpending := (pending_of_setMark (by cases result <;> exact nofun) hj).1
    rw [mark, hmarks] at hpending
    exact (pending_of_setMark (by decide) (hran.pending j hpending)).1
  · refine ⟨.called i (.bringUp .checkDeps) :: (events ++ [.returned i (.bringUp .checkDeps) fault?]), ?_,
      .call hm hinner .nil⟩
    have hentered : ((c.setMark i .inProgress).entered i).roster.journal =
        c.roster.journal ++ [.called i (.bringUp .checkDeps)] := rfl
    rw [heq, hevents, hentered, List.append_assoc, List.append_assoc] at hback
    exact hback

/-- The walk is a row of nested calls. -/
theorem nests_askAll (c : Check) : Nests c c.askAll :=
  List.foldlRecOn (motive := Nests c) _ _ (.refl c) fun _ h i _ => h.trans (nests_pass _ i _)

/-- Pending at the start is who is loaded and has tended itself. -/
theorem lt_of_start_pending {r : Roster} (h : (start r).mark i = .pending) :
    i < r.size ∧ (r.handle i).state = .postLoaded := by
  have hi : i < r.size := length_start r ▸ lt_length_of_mark_eq_pending h
  rw [mark_start hi] at h
  refine ⟨hi, ?_⟩
  rw [Roster.state_handle]
  cases hs : (r.outline i).state with
  | postLoaded => rfl
  | _ =>
    rw [hs] at h
    exact nomatch h

end Check
end BringUp

namespace Roster

open BringUp BringUp.Check

variable {r : Roster} {A : Nat → Prop}

/-- The verdicts make no calls. -/
theorem continues_finish (c : Check) : Continues A c.roster c.finish := by
  refine continues_foldl (fun r i => ?_) _ _
  split_ifs
  · exact continues_move ..
  · exact .refl A r

/-- The late check of a plugin is no dependency check. -/
theorem continues_checkLate (i : Nat) : Continues A r (r.checkLate i) := by
  rw [checkLate]
  split_ifs
  · have hne : Step.bringUp .postCheckDeps ≠ .bringUp .checkDeps := by decide
    have hcall : Continues A r _ := continues_callLocal i hne ((r.handle i).plugin.postCheckDeps r.views)
    split <;> next heq => rw [heq] at hcall; exact hcall.trans (continues_move ..)
  · exact .refl A r

/-- Nor is there one in all of the late phase. -/
theorem continues_postCheckDeps (r : Roster) : Continues A r r.postCheckDeps := by
  have hlate : Continues A r r.lateChecked := continues_foldl (fun r i => continues_checkLate i) _ r
  have hsettle : Continues A r.lateChecked r.lateChecked.settleLate := by
    refine continues_foldl (fun q i => ?_) _ _
    split
    · exact continues_move ..
    · exact .refl A q
  have hrelease : Continues A r.lateChecked.settleLate r.postCheckDeps := by
    refine continues_foldl (fun q i => ?_) _ _
    split_ifs
    · exact continues_move ..
    · exact .refl A q
  exact (hlate.trans hsettle).trans hrelease

/-- **All that bring-up tells of dependency checks**: nested calls of plugins that had just tended themselves.
Neither the verdicts nor the late phase tell of any other. -/
theorem nested_bringUp (r : Roster) :
    Continues (fun j => j < r.size ∧ (r.handle j).state = .postLoaded) r r.bringUp := by
  have hasked := (nests_askAll (start r)).journal.mono fun j hj => lt_of_start_pending hj
  exact (hasked.trans (continues_finish (asked r).settled)).trans (continues_postCheckDeps r.checkDeps)

/-- Plugins that differ and all have a property are no more than the plugins that have it. -/
theorem length_le_countP {calls : List Nat} {n : Nat} {p : Nat → Bool} (hnodup : calls.Nodup)
    (h : ∀ j ∈ calls, j < n ∧ p j) : calls.length ≤ (List.range n).countP p := by
  rw [List.countP_eq_length_filter]
  refine (List.subperm_of_subset hnodup fun j hj => ?_).length_le
  exact List.mem_filter.2 ⟨List.mem_range.2 (h j hj).1, (h j hj).2⟩

/-- **Bring-up comes to an end, and no dependency check is entered while it is under way**, whatever plugins ask for.

A check needs no bound on its depth.  At each moment of bring-up, the dependency checks under way are of different
plugins, all of which had just tended themselves, so that there are no more of them than such plugins, and in the end
none is left.  Every plugin is decided.  The loops that pass rejections on end within one round more than there are
plugins, and leave what the phases of bring-up leave. -/
theorem bringUp_ends (r : Roster) :
    (asked r = (List.range r.size).foldl (fun c i => (resolve i c).2) (start r) ∧
      ∀ i c, resolve i c = match c.mark i with
        | .accepted | .inProgress => (true, c)
        | .rejected _ => (false, c)
        | .pending =>
          match callCheck resolve i (c.setMark i .inProgress) with
          | (.ok _, c) => (true, c.setMark i .accepted)
          | (.error e, c) => (false, c.setMark i (.rejected e.message))) ∧
    (∃ events, r.bringUp.journal = r.journal ++ events ∧ events.foldl Event.underWay [] = [] ∧
      ∀ before after, events = before ++ after →
        (before.foldl Event.underWay []).Nodup ∧
        (∀ j ∈ before.foldl Event.underWay [], j < r.size ∧ (r.handle j).state = .postLoaded) ∧
        (before.foldl Event.underWay []).length ≤
          (List.range r.size).countP fun j => (r.handle j).state = .postLoaded) ∧
    (∀ k < r.size, ((asked r).settled.mark k).isDecided) ∧
    Loop.Ends withdraw? r.size (fun c k => c.mark k = .accepted) (fun c k => (c.mark k).isRejected) (asked r)
      (fun c => c.finish = r.checkDeps) ∧
    Loop.Ends withdrawLate? r.size (fun q k => (q.handle k).state = .depsFinalized)
      (fun q k => (q.handle k).state.isRejected) r.lateChecked
      (fun q => q.entries = r.lateChecked.settleLate.entries) := by
  refine ⟨⟨rfl, resolve_eq⟩, ?_, fun k hk => r.isDecided_settled hk, ?_, ?_⟩
  · obtain ⟨events, hjournal, hnested⟩ := r.nested_bringUp
    obtain ⟨hend, halways⟩ := hnested.always List.nodup_nil nofun
    refine ⟨events, hjournal, hend, fun before after h => ?_⟩
    obtain ⟨inner, hinner, hnodup, hA⟩ := (h ▸ halways).of_append
    rw [List.append_nil] at hinner
    refine ⟨hnodup, fun j hj => hA j (hinner ▸ hj), ?_⟩
    exact length_le_countP hnodup fun j hj => ⟨(hA j (hinner ▸ hj)).1, decide_eq_true (hA j (hinner ▸ hj)).2⟩
  · have hends := ends_withdraw (length_asked r)
    rw [size_asked] at hends
    obtain ⟨⟨c, hrun, rfl⟩, hfalls, hstays⟩ := hends
    exact ⟨⟨_, hrun, rfl⟩, hfalls, hstays⟩
  · have hends := r.lateChecked.ends_withdrawLate
    rw [size_lateChecked] at hends
    exact hends

/-- A printer and a tray that need each other, where the printer also needs what nobody has. -/
def jammed : Roster :=
  [SteadyPlugin.ofNeeds "Printer" [] [.require "Tray", .require "Cable"],
    SteadyPlugin.ofNeeds "Tray" [] [.require "Printer"]].foldl (fun r p => r.add p.plugin .static none) {}

/-- The tray is asked within the call of the printer, is accepted, and goes down in the first round. -/
theorem jammed_bringUp_ends :
    (Loop.round withdraw? (List.range 2) (asked jammed)).1 = true ∧
      (∃ k < 2, (asked jammed).mark k = .accepted ∧
        ((Loop.round withdraw? (List.range 2) (asked jammed)).2.mark k).isRejected) ∧
      ∃ q, Loop.run withdraw? (List.range 2) 3 (asked jammed) = some q ∧ q.finish = jammed.checkDeps := by
  have hflag : (Loop.round withdraw? (List.range 2) (asked jammed)).1 = true := by decide +kernel
  obtain ⟨-, -, -, hloop, -⟩ := jammed.bringUp_ends
  exact ⟨hflag, hloop.falls 0 hflag, hloop.stops⟩

end Roster
end Calibration
