/-
# Bring-up keeps to the course

During the dependency check plugins are called one inside another, and only in the end do they enter the states of
their marks.  In between the course of a plugin is what its state and its mark say (`during`): a plugin is called when
its mark is pending, which sets the mark, and so never again.  A check keeps this (`tracked_pass`), and when everyone
is asked the verdicts on the marks are steps in order (`Tracked.finish`).  The late check calls each plugin by itself
(`Orderly.checkLate`), and the rejections and releases after it are steps in order as well.

A roster in which nobody is before a phase is `Settled`: bring-up leaves it as it is (`bringUp_eq_self`).
-/

import Calibration.Proofs.BringUp.Bounds
import Calibration.Proofs.Roster.Follows
import Mathlib.Data.List.Basic

namespace Calibration

open BringUp BringUp.Check

namespace BringUp
namespace Check

/-- The course of a plugin during the dependency check. -/
def during (state : Lifecycle) (mark : Mark) : Course :=
  match state, mark with
  | .postLoaded, .inProgress => .called .checkDeps
  | .postLoaded, .accepted => .passed .checkDeps
  | .postLoaded, .rejected message => .failed .checkDeps message
  | state, _ => .resting state

/-- The course of a plugin during the check leads to the state that it is in. -/
theorem state_during (state : Lifecycle) (mark : Mark) : (during state mark).state = state := by
  unfold during
  split
  case h_4 => exact Course.state_resting _
  all_goals rfl

/-- Of a plugin that is past the check or rejected, the mark says nothing. -/
theorem during_of_ne {state : Lifecycle} (h : state ≠ .postLoaded) (mark : Mark) :
    during state mark = .resting state := by
  cases state with
  | postLoaded => exact absurd rfl h
  | _ => rfl

/-- The courses are those that the states and the marks say; who is not asked yet has tended itself. -/
structure Tracked (c : Check) : Prop where
  follows : c.roster.Follows fun k => during (c.roster.handle k).state (c.mark k)
  pending : ∀ k, c.mark k = .pending → (c.roster.handle k).state = .postLoaded

variable {c : Check} {ask : Nat → Check → Bool × Check} {asker i : Nat}

/-- Recording a group is no step of anybody's course. -/
theorem Tracked.addNeed (h : c.Tracked) (asker : Nat) (g : List Nat) : (c.addNeed asker g).Tracked := by
  have hhandle : ∀ k, (c.addNeed asker g).roster.handle k = c.roster.handle k := by
    intro k
    rw [Check.addNeed, Roster.handle, Roster.entry_modify]
    split_ifs <;> rfl
  constructor
  · have hfollows : (c.addNeed asker g).roster.Follows fun k => during (c.roster.handle k).state (c.mark k) :=
      h.follows.congr rfl (fun k => by rw [hhandle]) fun k => by rw [hhandle]
    exact hfollows.eq_of fun k => by rw [hhandle]; rfl
  · intro k hk
    rw [hhandle]
    exact h.pending k hk

/-- Nor is a line in the log. -/
theorem Tracked.noted (h : c.Tracked) (line : String) :
    Tracked { c with roster := c.roster.log (.noted line) } where
  follows := h.follows.noted line
  pending := h.pending

/-- The program of a check keeps track, if checks do. -/
theorem tracked_run (hask : ∀ j c, Tracked c → (ask j c).2.Tracked) (asker : Nat) (t : NeedTask) (h : c.Tracked) :
    (t.run (serve ask asker) c).2.Tracked :=
  Task.run_preserves (P := Tracked)
    (fun q _ hc => serve_preserves hask (fun g _ h => h.addNeed asker g) (fun line _ h => h.noted line) hc q) t h

/-- The check of a plugin begins: it was not asked before, and its mark says at once that it is under way, so that it
will not be asked again. -/
theorem Tracked.entered (h : c.Tracked) (hm : c.mark i = .pending) :
    ((c.setMark i .inProgress).entered i).Tracked := by
  have hlt := lt_length_of_mark_eq_pending hm
  have hs := h.pending i hm
  have hmark : ∀ k, ((c.setMark i .inProgress).entered i).mark k = if k = i then .inProgress else c.mark k :=
    fun k => mark_setMark _ hlt
  have hstate : ∀ k, (((c.setMark i .inProgress).entered i).roster.handle k).state = (c.roster.handle k).state :=
    Roster.state_of_outlines_eq (Roster.outlines_enter ..)
  have hcall : (during (c.roster.handle i).state (c.mark i)).call (.bringUp .checkDeps) =
      some (.called .checkDeps) := by
    rw [hs, hm]
    rfl
  constructor
  · refine (h.follows.enter hcall).eq_of ?_
    intro k
    rw [hstate, hmark]
    by_cases hk : k = i
    · subst hk
      rw [Function.update_self, if_pos rfl, hs]
      rfl
    · rw [Function.update_of_ne hk, if_neg hk]
  · intro k hk
    rw [hmark] at hk
    split_ifs at hk
    rw [hstate]
    exact h.pending k hk

/-- The check of a plugin ends, and the mark says how. -/
theorem Tracked.left (h : c.Tracked) (hlt : i < c.marks.length) (hm : c.mark i = .inProgress)
    (hs : (c.roster.handle i).state = .postLoaded) (memory : Dict) (result : Except Halt Unit) {m : Mark}
    (hreply : m = match (c.roster.leave i (.bringUp .checkDeps) memory result).1 with
      | .ok _ => .accepted
      | .error e => .rejected e.message) :
    Tracked (setMark { c with roster := (c.roster.leave i (.bringUp .checkDeps) memory result).2 } i m) := by
  let left : Check := { c with roster := (c.roster.leave i (.bringUp .checkDeps) memory result).2 }
  have hmark : ∀ k, (left.setMark i m).mark k = if k = i then m else c.mark k := fun k => mark_setMark m hlt
  have hstate : ∀ k, ((left.setMark i m).roster.handle k).state = (c.roster.handle k).state :=
    Roster.state_of_outlines_eq (Roster.outlines_leave ..)
  have hleave : (during (c.roster.handle i).state (c.mark i)).leave (.bringUp .checkDeps)
      (Roster.fault? (c.roster.leave i (.bringUp .checkDeps) memory result).1) = some (during .postLoaded m) := by
    rw [hs, hm, hreply]
    cases (c.roster.leave i (.bringUp .checkDeps) memory result).1 <;> rfl
  constructor
  · refine (h.follows.leave memory result hleave).eq_of ?_
    intro k
    change _ = during ((left.setMark i m).roster.handle k).state ((left.setMark i m).mark k)
    rw [hstate, hmark]
    by_cases hk : k = i
    · subst hk
      rw [Function.update_self, if_pos rfl, hs]
    · rw [Function.update_of_ne hk, if_neg hk]
  · intro k hk
    change ((left.setMark i m).roster.handle k).state = _
    rw [hstate]
    by_cases hki : k = i
    · exact hki ▸ hs
    · refine h.pending k ?_
      rw [← hk]
      exact ((hmark k).trans (if_neg hki)).symm

/-- **A check keeps track**: its plugin is called, and its mark says how the call ended.  The induction is on the
depth, since the plugin's code asks for other checks in the middle of its own. -/
theorem tracked_pass (d i : Nat) (h : c.Tracked) : (pass d i c).2.Tracked := by
  refine pass_preserves (P := Tracked) (fun d i c ih h hm result c' heq => ?_) d i h
  let begun := c.setMark i .inProgress
  let ended := (begun.program i).run (serve (pass d) i) (begun.entered i)
  have hown : (begun.entered i).mark i = .inProgress :=
    (mark_setMark _ (lt_length_of_mark_eq_pending hm)).trans (if_pos rfl)
  have hended : ended.2.Tracked := tracked_run ih i (begun.program i) (h.entered hm)
  have hprogress : (begun.entered i).Progress ended.2 := progress_run (progress_pass d) hown (begun.program i)
  have hlt : i < ended.2.marks.length := by
    rw [hprogress.length]
    exact (List.length_set ..).symm ▸ lt_length_of_mark_eq_pending hm
  have hs : (ended.2.roster.handle i).state = .postLoaded := by
    have hstate := Roster.state_of_outlines_eq (Roster.outlines_enter begun.roster i (.bringUp .checkDeps)) i
    exact (hprogress.state i).trans (hstate.trans (h.pending i hm))
  have hcheck : callCheck (pass d) i begun =
      ((ended.2.roster.leave i (.bringUp .checkDeps) ended.1.2 ended.1.1).1,
        { ended.2 with roster := (ended.2.roster.leave i (.bringUp .checkDeps) ended.1.2 ended.1.1).2 }) := rfl
  obtain ⟨hreply, rfl⟩ := Prod.mk.inj (hcheck.symm.trans heq)
  refine hended.left hlt (hprogress.mark_of_inProgress hown) hs ended.1.2 ended.1.1 ?_
  rw [hreply]
  cases result <;> rfl

/-- The whole walk keeps track. -/
theorem tracked_askAll (h : c.Tracked) : c.askAll.Tracked :=
  List.foldlRecOn (motive := Tracked) _ _ h fun c hc i _ => tracked_pass c.pendingCount i hc

/-- Between two operations everybody who has tended itself waits to be asked. -/
theorem tracked_start {r : Roster} (h : r.Orderly) : (start r).Tracked := by
  have hmark : ∀ k, (start r).mark k = .pending ↔ (r.handle k).state = .postLoaded := by
    intro k
    by_cases hk : k < r.size
    · rw [mark_start hk, Roster.state_handle]
      cases (r.outline k).state <;> simp [initialMark]
    · have hle := Nat.not_lt.1 hk
      rw [mark, List.getElem?_eq_none ((length_start r).symm ▸ hle), Roster.state_handle,
        Roster.outline_of_size_le _ _ hle]
      exact iff_of_false (by decide) (by decide)
  constructor
  · refine Roster.Follows.eq_of h ?_
    intro k
    change _ = during (r.handle k).state _
    by_cases hs : (r.handle k).state = .postLoaded
    · rw [hs, (hmark k).2 hs]
      rfl
    · rw [during_of_ne hs]
  · intro k hk
    exact (hmark k).1 hk

/-- The verdict on a decided mark is a step in order: whoever was called enters the state that its mark stands for. -/
theorem move_verdict {k : Nat} (hlength : c.marks.length = c.roster.size) (hdecided : (c.mark k).isDecided) :
    (during .postLoaded (c.mark k)).move (verdict (c.settled.mark k)) =
      some (.resting (verdict (c.settled.mark k))) := by
  rcases settled_cases hlength k with ⟨hm, -⟩ | ⟨hm, hrej, -⟩
  · rw [hm]
    cases hmark : c.mark k with
    | accepted => rfl
    | rejected message => exact Course.move_failed .checkDeps message
    | pending => rw [hmark] at hdecided; exact nomatch hdecided
    | inProgress => rw [hmark] at hdecided; exact nomatch hdecided
  · rw [hm]
    cases hmark : c.settled.mark k with
    | rejected reason => rfl
    | _ => rw [hmark] at hrej; exact nomatch hrej

/-- **The verdicts** bring everybody to rest.  Who was asked has passed its call or failed in it, and its mark says
which move of the lifecycle is due. -/
theorem Tracked.finish (h : c.Tracked) (hlength : c.marks.length = c.roster.size)
    (hdecided : ∀ k, k < c.roster.size → (c.mark k).isDecided) : c.settled.finish.Orderly := by
  refine Roster.orderly_foldl_range h.follows ?_ ?_
  · intro k hk
    have hs : (c.roster.handle k).state ≠ .postLoaded := by
      rw [Roster.state_handle, Roster.outline_of_size_le c.roster k hk]
      exact nofun
    rw [during_of_ne hs, Course.state_resting]
  · intro r' σ' i hi hsize hσ' hown
    have hs : (r'.handle i).state = (c.roster.handle i).state := by
      rw [hσ'.state, hown, state_during]
    split_ifs with hp
    · rw [hs] at hp
      refine ⟨Roster.size_move .., verdict (c.settled.mark i), hσ'.move (hsize ▸ hi) ?_⟩
      rw [hown, hp]
      exact move_verdict hlength (hdecided i hi)
    · refine ⟨rfl, (c.roster.handle i).state, ?_⟩
      rw [hs] at hp
      rw [← during_of_ne hp (c.mark i), ← hown, Function.update_eq_self]
      exact hσ'

end Check
end BringUp

namespace Roster

variable {r : Roster} {i : Nat}

/-- **The dependency check** keeps to the course.  The walk tracks who is being asked, and the verdicts end what it
began. -/
theorem Orderly.checkDeps (h : r.Orderly) : r.checkDeps.Orderly :=
  (tracked_askAll (tracked_start h)).finish (length_asked r) fun _ hk => isDecided_asked (size_asked r ▸ hk)

/-- The late check of one plugin keeps to the course. -/
theorem Orderly.checkLate (h : r.Orderly) (i : Nat) : (r.checkLate i).Orderly := by
  unfold Roster.checkLate
  split_ifs with hs
  · have hi : i < r.size := lt_size_of_ne (by rw [hs]; decide)
    have hphase := h.phase .postCheckDeps hi hs ((r.handle i).plugin.postCheckDeps r.views)
    split <;> next heq =>
      rw [heq] at hphase
      exact hphase
  · exact h

/-- **The late check** keeps to the course, plugin by plugin.  A plugin that is not due is not called at all. -/
theorem Orderly.lateChecked (h : r.Orderly) : r.lateChecked.Orderly :=
  List.foldlRecOn (motive := Orderly) _ _ h fun _ h i _ => h.checkLate i

/-- Late rejections take only those down who passed the late check. -/
theorem state_of_cause {group : List Nat} (h : (settle r.lateStakes)[i]?.bind (·.cause) = some group) :
    (r.handle i).state = .depsFinalized := by
  have hstake := r.lateStakes_getElem? i
  rcases (falls_settle r.lateStakes).place i with he | ⟨s, g, hs, hup, -⟩
  · rw [he, hstake] at h
    split_ifs at h <;> exact nomatch h
  · rw [hstake] at hs
    split_ifs at hs
    rw [← Option.some.inj hs] at hup
    exact (standing_lateStake _).1 hup

/-- The late rejections are steps in order, as they meet only who passed the late check. -/
theorem Orderly.settleLate (h : r.Orderly) : r.settleLate.Orderly := by
  refine orderly_foldl_range h (fun k _ => by rw [Course.state_resting]) ?_
  intro r' σ' i hi hsize hσ' hown
  have hsame : r'.Follows (Function.update σ' i (.resting (r.handle i).state)) := by
    rw [← hown, Function.update_eq_self]
    exact hσ'
  split
  · next group hcause =>
    refine ⟨size_move .., .rejected .postCheckDeps (dependencyReason r group), hσ'.move (hsize ▸ hi) ?_⟩
    rw [hown, state_of_cause hcause]
    rfl
  · exact ⟨rfl, _, hsame⟩

/-- Who has passed all phases is released. -/
theorem Orderly.release (h : r.Orderly) : r.release.Orderly := by
  refine orderly_foldl_range h (fun k _ => by rw [Course.state_resting]) ?_
  intro r' σ' i hi hsize hσ' hown
  split_ifs with hs
  · refine ⟨size_move .., .runnable, hσ'.move (hsize ▸ hi) ?_⟩
    rw [hσ'.state, hown, Course.state_resting] at hs
    rw [hown, hs]
    rfl
  · refine ⟨rfl, (r.handle i).state, ?_⟩
    rw [← hown, Function.update_eq_self]
    exact hσ'

/-- **The late phase** keeps to the course.  It is the late check, then the late rejections, then the release of those
that are left, and each of the three has its own lemma. -/
theorem Orderly.postCheckDeps (h : r.Orderly) : r.postCheckDeps.Orderly := h.lateChecked.settleLate.release

/-! ### Nothing left to do -/

/-- Nobody is before a phase or between two. -/
def Settled (r : Roster) : Prop :=
  ∀ k, (r.handle k).state ≠ .postLoaded ∧ (r.handle k).state ≠ .depsChecked ∧ (r.handle k).state ≠ .depsFinalized

/-- Who is decided is not asked again. -/
theorem pass_eq_self {c : Check} (d : Nat) (h : c.mark i ≠ .pending) : (pass d i c).2 = c := by
  rcases pass_cases d i c with ⟨-, he⟩ | ⟨-, he⟩ | ⟨hm, -⟩ | ⟨_, -, hm, -⟩
  · rw [he]
  · rw [he]
  · exact absurd hm h
  · exact absurd hm h

/-- In a settled roster nobody is asked, no verdict is given, and nothing is written into the log. -/
theorem checkDeps_eq_self (h : r.Settled) : r.checkDeps = r := by
  have hmark : ∀ i, (start r).mark i ≠ .pending := by
    intro i hm
    have hi := lt_length_of_mark_eq_pending hm
    rw [length_start] at hi
    rw [mark_start hi, ← state_handle] at hm
    have hs := h i
    cases hstate : (r.handle i).state <;> rw [hstate] at hm hs
    · exact nomatch hm
    · exact hs.1 rfl
    · exact nomatch hm
    · exact nomatch hm
    · exact nomatch hm
    · exact nomatch hm
  have hasked : asked r = start r := List.foldl_fixed' (fun i => pass_eq_self _ (hmark i)) _
  change (asked r).settled.finish = r
  rw [hasked]
  exact List.foldl_fixed' (fun i => if_neg (h i).1) _

/-- Nor is there anything to do in the late phase. -/
theorem postCheckDeps_eq_self (h : r.Settled) : r.postCheckDeps = r := by
  have hlate : r.lateChecked = r := List.foldl_fixed' (fun i => r.checkLate_of_ne i (h i).2.1) _
  have hsettle : r.settleLate = r := by
    refine List.foldl_fixed' (fun i => ?_) _
    split
    · next group hcause => exact absurd (state_of_cause hcause) (h i).2.2
    · rfl
  have hrelease : r.release = r := List.foldl_fixed' (fun i => if_neg (h i).2.2) _
  rw [postCheckDeps_eq, hlate, hsettle, hrelease]

/-- **Bring-up leaves a settled roster as it is**, so that a second one after a first changes nothing
(`settled_bringUp`). -/
theorem bringUp_eq_self (h : r.Settled) : r.bringUp = r := by
  rw [bringUp, checkDeps_eq_self h, postCheckDeps_eq_self h]

end Roster
end Calibration
