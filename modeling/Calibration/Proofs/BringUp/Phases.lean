/-
# What the two phases of bring-up come to

The dependency check ends with a verdict on every plugin that had tended itself and was not checked before
(`outline_checkDeps`).  A plugin is accepted only if each of its groups has a member that is not rejected
(`exists_accepted_of_settled`), and plugins that were accepted and support one another stay accepted
(`settled_of_supported`).  The late check is the same once more on the states: who gives up is rejected
(`outline_checkLate`), rejections take others down (`exists_standing_of_settleLate`, `settleLate_of_supported`),
and the rest becomes runnable (`outline_release`).
-/

import Calibration.BringUp.Late
import Calibration.Proofs.BringUp.Closure
import Calibration.Proofs.BringUp.Progress

namespace Calibration
namespace BringUp

/-- Who is decided and not rejected is accepted. -/
theorem Mark.eq_accepted_of_isDecided {m : Mark} (hd : m.isDecided) (hr : m.isRejected = false) : m = .accepted := by
  cases m
  · exact nomatch hd
  · exact nomatch hd
  · rfl
  · exact nomatch hr

namespace Check

variable {c : Check} {k : Nat}

/-! ### The verdict on the marks -/

/-- The stake of a plugin is made of its mark and its groups. -/
theorem stakes_getElem? (h : c.marks.length = c.roster.size) (k : Nat) :
    c.stakes[k]? = if k < c.roster.size then some (stake (c.mark k) (c.roster.outline k).needs) else none := by
  rw [stakes, List.getElem?_zipWith]
  by_cases hk : k < c.roster.size
  · have hk' : k < c.marks.length := h ▸ hk
    rw [if_pos hk, mark, Roster.outline, Roster.entry, List.getElem?_eq_getElem hk',
      List.getElem?_eq_getElem (show k < c.roster.entries.length from hk)]
    rfl
  · rw [if_neg hk, List.getElem?_eq_none (h ▸ Nat.not_lt.1 hk)]

/-- The closure of the stakes has one for each plugin. -/
theorem length_settle_stakes (h : c.marks.length = c.roster.size) : (settle c.stakes).length = c.roster.size := by
  rw [(falls_settle _).length, stakes, List.length_zipWith, h]
  exact Nat.min_self _

/-- The settled marks are as many as the plugins. -/
theorem length_settled (h : c.marks.length = c.roster.size) : c.settled.marks.length = c.roster.size := by
  rw [settled, List.length_zipWith, length_settle_stakes h, h, Nat.min_self]

/-- A settled mark is the one that the plugin had, or gives the failed group that took it down as the reason. -/
theorem mark_settled (h : c.marks.length = c.roster.size) {s : Stake} (hs : (settle c.stakes)[k]? = some s) :
    c.settled.mark k = (s.cause.map fun group => .rejected (dependencyReason c.roster group)).getD (c.mark k) := by
  have hk : k < c.marks.length := h ▸ length_settle_stakes h ▸ (List.getElem?_eq_some_iff.1 hs).1
  rw [mark, mark, settled, List.getElem?_zipWith, List.getElem?_eq_getElem hk, hs]
  obtain ⟨_, _, cause⟩ := s
  cases cause <;> rfl

/-- The marks are settled as the stakes are: a plugin keeps its mark, or it was accepted and is taken down. -/
theorem settled_cases (h : c.marks.length = c.roster.size) (k : Nat) :
    (c.settled.mark k = c.mark k ∧ (settle c.stakes)[k]? = c.stakes[k]?) ∨
      (c.mark k = .accepted ∧ (c.settled.mark k).isRejected ∧ isDown (settle c.stakes) k) := by
  by_cases hk : k < c.roster.size
  · have hstake := stakes_getElem? h k
    rw [if_pos hk] at hstake
    rcases (falls_settle c.stakes).place k with he | ⟨s, g, hs, hup, -, -, he⟩
    · exact .inl ⟨mark_settled h (he.trans hstake), he⟩
    · refine .inr ⟨?_, by rw [mark_settled h he]; rfl, by rw [isDown, he]; rfl⟩
      obtain rfl := Option.some.inj (hstake.symm.trans hs)
      revert hup
      cases c.mark k <;> intro hup
      · cases hup
      · cases hup
      · rfl
      · cases hup
  · have hle := Nat.not_lt.1 hk
    refine .inl ⟨?_, ?_⟩
    · rw [mark, mark, List.getElem?_eq_none (by rw [length_settled h]; exact hle), List.getElem?_eq_none (h ▸ hle)]
    · rw [List.getElem?_eq_none (by rw [length_settle_stakes h]; exact hle), stakes_getElem? h, if_neg hk]

/-- Who is down at first is who is rejected. -/
theorem isDown_stakes (h : c.marks.length = c.roster.size) (k : Nat) :
    isDown c.stakes k = (c.mark k).isRejected := by
  rw [isDown, stakes_getElem? h]
  split_ifs with hk
  · cases c.mark k <;> rfl
  · rw [mark, List.getElem?_eq_none (h ▸ Nat.not_lt.1 hk)]; rfl

/-- Who is down when the stakes are settled is who is rejected by the settled marks. -/
theorem isDown_settle_stakes (h : c.marks.length = c.roster.size) (k : Nat) :
    isDown (settle c.stakes) k = (c.settled.mark k).isRejected := by
  rcases settled_cases h k with ⟨hm, hs⟩ | ⟨-, hm, hd⟩
  · rw [hm, ← isDown_stakes h, isDown, isDown, hs]
  · rw [hm, hd]

/-- **An accepted plugin has collaborators**: none of its groups has rejected members only.  This is the half of the
closure that `hasFailed_settle` gives. -/
theorem exists_accepted_of_settled (h : c.marks.length = c.roster.size) (hk : k < c.roster.size)
    (ha : c.settled.mark k = .accepted) :
    c.mark k = .accepted ∧ ∀ g ∈ (c.roster.outline k).needs, g ≠ [] →
      ∃ j ∈ g, (c.settled.mark j).isRejected = false := by
  rcases settled_cases h k with ⟨hm, hs⟩ | ⟨-, hm, -⟩
  · refine ⟨hm.symm.trans ha, fun g hg hne => ?_⟩
    rw [stakes_getElem? h, if_pos hk, hm.symm.trans ha] at hs
    have hf := hasFailed_settle hs rfl g hg
    rw [hasFailed, Bool.and_eq_false_iff, Bool.not_eq_false', List.isEmpty_iff, List.all_eq_false] at hf
    obtain ⟨j, hj, hd⟩ := hf.resolve_left hne
    exact ⟨j, hj, by rw [← isDown_settle_stakes h]; exact Bool.eq_false_iff.2 hd⟩
  · rw [ha] at hm; cases hm

/-- **Accepted plugins that support one another stay accepted.**  This is the half that `not_isDown_settle` gives. -/
theorem settled_of_supported (h : c.marks.length = c.roster.size) {U : Nat → Prop}
    (hacc : ∀ k, U k → c.mark k = .accepted)
    (hgroups : ∀ k, U k → ∀ g ∈ (c.roster.outline k).needs, ∃ j ∈ g, U j) {k : Nat} (hU : U k) :
    c.settled.mark k = .accepted := by
  have hdown : ¬ isDown (settle c.stakes) k := by
    refine not_isDown_settle (U := U) (fun k hk => ?_) (fun k s hk hs _ => ?_) k hU
    · rw [isDown_stakes h, hacc k hk]; decide
    · rw [stakes_getElem? h] at hs
      split_ifs at hs
      exact Option.some.inj hs ▸ hgroups k hk
  rcases settled_cases h k with ⟨hm, -⟩ | ⟨-, -, hd⟩
  · exact hm.trans (hacc k hU)
  · exact absurd hd hdown

/-- Only who is accepted passes the dependency check. -/
theorem verdict_eq_depsChecked {m : Mark} : verdict m = .depsChecked ↔ m = .accepted := by
  cases m <;> simp [verdict]

/-- Every verdict is a state that a plugin may enter when it has tended itself, so that no verdict is lost. -/
theorem canEnter_verdict (m : Mark) : Lifecycle.postLoaded.canEnter (verdict m) := by
  cases m <;> rfl

/-- Who had tended itself enters the state of its mark; all others stay as they are. -/
theorem outline_finish (hk : k < c.roster.size) :
    c.finish.outline k =
      if (c.roster.outline k).state = .postLoaded then { c.roster.outline k with state := verdict (c.mark k) }
      else c.roster.outline k :=
  (Roster.foldl_range_move .postLoaded (fun i => verdict (c.mark i)) (fun i => canEnter_verdict (c.mark i))
    c.roster).2 k hk

/-- The verdicts leave the number of plugins as it is. -/
theorem size_finish (c : Check) : c.finish.size = c.roster.size :=
  (Roster.foldl_range_move .postLoaded (fun i => verdict (c.mark i)) (fun i => canEnter_verdict (c.mark i))
    c.roster).1

/-! ### The whole phase -/

/-- At the start every plugin has a mark. -/
theorem length_start (r : Roster) : (start r).marks.length = r.size := List.length_map ..

/-- At the start the marks are read off the states. -/
theorem mark_start {r : Roster} (hk : k < r.size) : (start r).mark k = initialMark (r.outline k).state := by
  rw [mark, start, List.getElem?_map, Roster.outline, Roster.entry,
    List.getElem?_eq_getElem (show k < r.entries.length from hk)]
  rfl

/-- The check once everyone is asked. -/
def asked (r : Roster) : Check := (start r).askAll

/-- From the start to the end of the walk there is nothing but progress. -/
theorem progress_asked (r : Roster) : (start r).Progress (asked r) := progress_askAll _

/-- Nobody is loaded during the walk. -/
theorem size_asked (r : Roster) : (asked r).roster.size = r.size := (progress_asked r).size

/-- After the walk every plugin has a mark. -/
theorem length_asked (r : Roster) : (asked r).marks.length = (asked r).roster.size := by
  rw [(progress_asked r).length, length_start, size_asked]

/-- **After the walk every plugin is decided**, since nobody was being asked when it began.  The verdicts can thus be
read off the marks. -/
theorem isDecided_asked {r : Roster} (hk : k < r.size) : ((asked r).mark k).isDecided := by
  refine isDecided_askAll hk ?_
  rw [mark_start hk]
  cases (r.outline k).state <;> exact nofun

end Check
end BringUp

namespace Roster

open BringUp BringUp.Check

variable (r : Roster) {k : Nat}

/-- Nobody is loaded in the dependency check. -/
theorem size_checkDeps : r.checkDeps.size = r.size := (size_finish _).trans (size_asked r)

/-- **The dependency check**: who had tended itself enters the state of its settled mark.  All others keep their
state, and everybody keeps its plugin and the groups that the walk has recorded. -/
theorem outline_checkDeps (hk : k < r.size) :
    r.checkDeps.outline k =
      if (r.outline k).state = .postLoaded then
        { (asked r).roster.outline k with state := verdict ((asked r).settled.mark k) }
      else (asked r).roster.outline k := by
  rw [← (show _ = (r.outline k).state from (progress_asked r).state k)]
  exact outline_finish (c := (asked r).settled) (by rw [← size_asked r] at hk; exact hk)

/-- The groups after the phase are those that the walk has recorded. -/
theorem needs_checkDeps (hk : k < r.size) :
    (r.checkDeps.outline k).needs = ((asked r).roster.outline k).needs := by
  rw [outline_checkDeps r hk]
  split_ifs <;> rfl

/-- The plugins are the same ones after the phase. -/
theorem plugin_checkDeps (hk : k < r.size) : (r.checkDeps.outline k).plugin = (r.outline k).plugin := by
  rw [outline_checkDeps r hk]
  split_ifs <;> exact (progress_asked r).plugin k

/-- The states after the phase, plugin by plugin. -/
theorem state_checkDeps (hk : k < r.size) :
    (r.checkDeps.outline k).state =
      if (r.outline k).state = .postLoaded then verdict ((asked r).settled.mark k) else (r.outline k).state := by
  rw [outline_checkDeps r hk]
  split_ifs
  · rfl
  · exact (progress_asked r).state k

/-- The settled marks are decided, too: the closure only turns accepted plugins into rejected ones. -/
theorem isDecided_settled (hk : k < r.size) : ((asked r).settled.mark k).isDecided := by
  rcases settled_cases (length_asked r) k with ⟨h, -⟩ | ⟨-, h, -⟩
  · rw [h]; exact isDecided_asked hk
  · cases hm : (asked r).settled.mark k <;> rw [hm] at h
    · exact nomatch h
    · exact nomatch h
    · exact nomatch h
    · rfl

/-! ### The late check -/

/-- Who has not passed the dependency check has no late check. -/
theorem checkLate_of_ne (i : Nat) (h : (r.outline i).state ≠ .depsChecked) : r.checkLate i = r := by
  rw [checkLate, if_neg (show ¬ (r.handle i).state = .depsChecked from h)]

/-- Nobody is loaded in a late check. -/
theorem size_checkLate (i : Nat) : (r.checkLate i).size = r.size := by
  rw [checkLate]
  split_ifs
  · have hcall := size_of_outlines_eq (outlines_callLocal r i (.bringUp .postCheckDeps)
      ((r.handle i).plugin.postCheckDeps r.views))
    split <;> next heq => rw [heq] at hcall; rw [size_move]; exact hcall
  · rfl

/-- The late check of one plugin changes no other. -/
theorem outline_checkLate_of_ne (i k : Nat) (h : k ≠ i) : (r.checkLate i).outline k = r.outline k := by
  rw [checkLate]
  split_ifs
  · have hcall := outline_of_outlines_eq (outlines_callLocal r i (.bringUp .postCheckDeps)
      ((r.handle i).plugin.postCheckDeps r.views)) k
    split <;> next heq => rw [heq] at hcall; rw [outline_move_of_ne _ _ _ _ h]; exact hcall
  · rfl

/-- What the late check of one plugin comes to: its code ends well, or it is rejected. -/
theorem outline_checkLate (hk : k < r.size) (hs : (r.outline k).state = .depsChecked) :
    ∃ (views : List PluginView) (memory : Dict) (state : Lifecycle),
      (r.checkLate k).outline k = { r.outline k with state } ∧ (state = .depsFinalized ∨ state.isRejected) ∧
        (state = .depsFinalized ↔ ((r.outline k).plugin.postCheckDeps views).succeeds memory) := by
  let code := (r.handle k).plugin.postCheckDeps r.views
  have hok := isOk_callLocal r k (.bringUp .postCheckDeps) code
  have hcall := outlines_callLocal r k (.bringUp .postCheckDeps) code
  have hmove : ∀ (r' : Roster) next, r'.outlines = r.outlines → Lifecycle.depsChecked.canEnter next →
      (r'.move k next).outline k = { r.outline k with state := next } := by
    intro r' next ho hn
    have hk' := outline_of_outlines_eq ho k
    rw [outline_move_self r' k (size_of_outlines_eq ho ▸ hk) (by rw [hk', hs]; exact hn), hk']
  refine ⟨r.views, (r.handle k).memory, ?_⟩
  rw [checkLate, if_pos (show (r.handle k).state = .depsChecked from hs)]
  split
  · next a r' heq =>
    rw [heq] at hok hcall
    exact ⟨.depsFinalized, hmove r' _ hcall rfl, .inl rfl, fun _ => hok.symm, fun _ => rfl⟩
  · next e r' heq =>
    rw [heq] at hok hcall
    exact ⟨_, hmove r' _ hcall rfl, .inr rfl, nofun, fun h => absurd (hok.trans h) Bool.false_ne_true⟩

/-- The roster once every late check is made. -/
def lateChecked : Roster := (List.range r.size).foldl checkLate r

/-- Nobody is loaded in the late checks. -/
theorem size_lateChecked : r.lateChecked.size = r.size :=
  (foldl_range_outline r size_checkLate outline_checkLate_of_ne r.size).1

/-- Who has not passed the dependency check comes out of the late checks as it was. -/
theorem outline_lateChecked_of_ne (hk : k < r.size) (hs : (r.outline k).state ≠ .depsChecked) :
    r.lateChecked.outline k = r.outline k := by
  obtain ⟨r', -, ho, he⟩ := (foldl_range_outline r size_checkLate outline_checkLate_of_ne r.size).2.2 k hk
  rw [lateChecked, he, checkLate_of_ne r' k (ho ▸ hs), ho]

/-- **The late check** of a plugin that passed the dependency check: its code ends well, or it is rejected.  Which of
both depends on its own code and memory, and on the views of the roster. -/
theorem outline_lateChecked (hk : k < r.size) (hs : (r.outline k).state = .depsChecked) :
    ∃ (views : List PluginView) (memory : Dict) (state : Lifecycle),
      r.lateChecked.outline k = { r.outline k with state } ∧ (state = .depsFinalized ∨ state.isRejected) ∧
        (state = .depsFinalized ↔ ((r.outline k).plugin.postCheckDeps views).succeeds memory) := by
  obtain ⟨r', hsize, ho, he⟩ := (foldl_range_outline r size_checkLate outline_checkLate_of_ne r.size).2.2 k hk
  rw [lateChecked, he, ← ho]
  exact outline_checkLate r' (hsize ▸ hk) (ho ▸ hs)

/-! ### Late rejections -/

/-- What the plugins have at stake when late rejections are settled. -/
def lateStakes : List Stake := r.entries.map lateStake

/-- The late stake of a plugin is made of its entry. -/
theorem lateStakes_getElem? (k : Nat) :
    r.lateStakes[k]? = if k < r.size then some (lateStake (r.entry k)) else none := by
  rw [lateStakes, List.getElem?_map]
  split_ifs with hk
  · rw [entry, List.getElem?_eq_getElem (show k < r.entries.length from hk)]; rfl
  · rw [List.getElem?_eq_none (Nat.not_lt.1 hk)]; rfl

/-- A plugin is up exactly if it has passed the late check and is not yet released. -/
theorem standing_lateStake (e : Entry) : (lateStake e).standing = .up ↔ e.outline.state = .depsFinalized := by
  simp only [lateStake, Entry.outline]
  cases e.handle.state <;> simp

/-- Who is down at first is who is rejected by then. -/
theorem isDown_lateStakes (k : Nat) : isDown r.lateStakes k = (r.outline k).state.isRejected := by
  rw [isDown, lateStakes_getElem?, outline, Entry.outline]
  split_ifs with hk
  · rw [Option.map_some, lateStake]
    cases (r.entry k).handle.state <;> rfl
  · rw [entry, List.getElem?_eq_none (Nat.not_lt.1 hk)]; rfl

/-- The rejection at one place, if the closure found a cause for it. -/
def lateStep (r' : Roster) (i : Nat) : Roster :=
  match (settle r.lateStakes)[i]?.bind (·.cause) with
  | some group => r'.move i (.rejected .postCheckDeps (dependencyReason r group))
  | none => r'

/-- Late rejections are made place by place. -/
theorem settleLate_walk : r.settleLate.size = r.size ∧ ∀ k, k < r.size →
    ∃ r' : Roster, r'.size = r.size ∧ r'.entry k = r.entry k ∧ r.settleLate.entry k = (r.lateStep r' k).entry k := by
  have hsize : ∀ (r' : Roster) i, (r.lateStep r' i).size = r'.size := fun r' i => by
    rw [lateStep]
    split
    · exact size_move ..
    · rfl
  have hother : ∀ (r' : Roster) i k, k ≠ i → (r.lateStep r' i).entry k = r'.entry k := fun r' i k hk => by
    rw [lateStep]
    split
    · exact (entry_move ..).trans (if_neg fun h => hk h.1)
    · rfl
  have h := foldl_range_view r hsize hother r.size
  exact ⟨h.1, h.2.2⟩

/-- The late rejections leave the number of plugins as it is. -/
theorem size_settleLate : r.settleLate.size = r.size := r.settleLate_walk.1

/-- **A late rejection takes a plugin down only before it is runnable**; all other plugins stay as they are, whichever
of their groups have failed. -/
theorem settleLate_cases (hk : k < r.size) :
    (r.settleLate.outline k = r.outline k ∧ (settle r.lateStakes)[k]? = r.lateStakes[k]?) ∨
      ∃ state : Lifecycle, (r.outline k).state = .depsFinalized ∧ state.isRejected ∧
        r.settleLate.outline k = { r.outline k with state } ∧ isDown (settle r.lateStakes) k := by
  obtain ⟨r', hsize, hentry, hstep⟩ := r.settleLate_walk.2 k hk
  have ho : r'.outline k = r.outline k := congrArg Entry.outline hentry
  have he : r.settleLate.outline k = (r.lateStep r' k).outline k := congrArg Entry.outline hstep
  have hstake := r.lateStakes_getElem? k
  rw [if_pos hk] at hstake
  rcases (falls_settle r.lateStakes).place k with hf | ⟨s, g, hs, hup, -, -, hf⟩
  · refine .inl ⟨?_, hf⟩
    rw [he, lateStep, hf, hstake]
    exact ho
  · obtain rfl := Option.some.inj (hstake.symm.trans hs)
    have hfin := (standing_lateStake _).1 hup
    refine .inr ⟨.rejected .postCheckDeps (dependencyReason r g), hfin, rfl, ?_, by rw [isDown, hf]; rfl⟩
    rw [he, lateStep, hf]
    change (r'.move k _).outline k = _
    rw [outline_move_self r' k (hsize ▸ hk) (by rw [ho, show (r.outline k).state = _ from hfin]; rfl), ho]

/-- Who is down when the late stakes are settled is who is rejected afterwards. -/
theorem isDown_settle_lateStakes (k : Nat) :
    isDown (settle r.lateStakes) k = (r.settleLate.outline k).state.isRejected := by
  by_cases hk : k < r.size
  · rcases r.settleLate_cases hk with ⟨ho, hs⟩ | ⟨state, -, hrej, ho, hd⟩
    · rw [ho, ← isDown_lateStakes, isDown, isDown, hs]
    · rw [hd, ho, hrej]
  · have hle := Nat.not_lt.1 hk
    rw [isDown, List.getElem?_eq_none (by rw [(falls_settle _).length, lateStakes, List.length_map]; exact hle),
      outline_of_size_le _ _ (by rw [size_settleLate]; exact hle)]
    rfl

/-- **Who is not rejected has collaborators**: none of its groups has rejected members only.  If one had, the closure
would have taken it down. -/
theorem exists_standing_of_settleLate (hk : k < r.size) (hs : (r.settleLate.outline k).state = .depsFinalized) :
    ∀ g ∈ (r.outline k).needs, g ≠ [] → ∃ j ∈ g, (r.settleLate.outline j).state.isRejected = false := by
  rcases r.settleLate_cases hk with ⟨ho, he⟩ | ⟨state, -, hrej, ho, -⟩
  · intro g hg hne
    rw [lateStakes_getElem?, if_pos hk] at he
    rw [ho] at hs
    have hf := hasFailed_settle he ((standing_lateStake _).2 hs) g hg
    rw [hasFailed, Bool.and_eq_false_iff, Bool.not_eq_false', List.isEmpty_iff, List.all_eq_false] at hf
    obtain ⟨j, hj, hd⟩ := hf.resolve_left hne
    exact ⟨j, hj, by rw [← isDown_settle_lateStakes]; exact Bool.eq_false_iff.2 hd⟩
  · rw [ho] at hs
    obtain rfl : state = .depsFinalized := hs
    cases hrej

/-- **Plugins that support one another are not taken down.**  Each of their groups keeps a member among them, so none
fails first. -/
theorem settleLate_of_supported {U : Nat → Prop} (hstate : ∀ k, U k → (r.outline k).state.isRejected = false)
    (hgroups : ∀ k, U k → ∀ g ∈ (r.outline k).needs, ∃ j ∈ g, U j) (hk : k < r.size) (hU : U k) :
    r.settleLate.outline k = r.outline k := by
  have hdown : ¬ isDown (settle r.lateStakes) k := by
    refine not_isDown_settle (U := U) (fun k hk => ?_) (fun k s hk hs _ => ?_) k hU
    · rw [isDown_lateStakes, hstate k hk]; decide
    · rw [lateStakes_getElem?] at hs
      split_ifs at hs
      exact Option.some.inj hs ▸ hgroups k hk
  rcases r.settleLate_cases hk with ⟨ho, -⟩ | ⟨-, -, -, -, hd⟩
  · exact ho
  · exact absurd hd hdown

/-- Who has passed all phases is released, and nobody else is changed. -/
theorem outline_release (hk : k < r.size) :
    r.release.outline k =
      if (r.outline k).state = .depsFinalized then { r.outline k with state := .runnable } else r.outline k :=
  (foldl_range_move .depsFinalized (fun _ => .runnable) (fun _ => rfl) r).2 k hk

/-- The release leaves the number of plugins as it is. -/
theorem size_release : r.release.size = r.size :=
  (foldl_range_move .depsFinalized (fun _ => .runnable) (fun _ => rfl) r).1

/-! ### The whole late phase -/

/-- The late phase is its three steps. -/
theorem postCheckDeps_eq : r.postCheckDeps = r.lateChecked.settleLate.release := rfl

/-- Nobody is loaded in the late phase. -/
theorem size_postCheckDeps : r.postCheckDeps.size = r.size := by
  rw [postCheckDeps_eq, size_release, size_settleLate, size_lateChecked]

/-- No groups are recorded in the late checks. -/
theorem needs_lateChecked (hk : k < r.size) :
    (r.lateChecked.outline k).needs = (r.outline k).needs := by
  by_cases hs : (r.outline k).state = .depsChecked
  · obtain ⟨_, _, state, ho, -⟩ := r.outline_lateChecked hk hs
    rw [ho]
  · rw [r.outline_lateChecked_of_ne hk hs]

/-- Nor by the late rejections. -/
theorem needs_settleLate (hk : k < r.size) : (r.settleLate.outline k).needs = (r.outline k).needs := by
  rcases r.settleLate_cases hk with ⟨ho, -⟩ | ⟨state, -, -, ho, -⟩ <;> rw [ho]

/-- So the groups after the late phase are those of the dependency check. -/
theorem needs_postCheckDeps (hk : k < r.size) :
    (r.postCheckDeps.outline k).needs = (r.outline k).needs := by
  have hk₁ : k < r.lateChecked.size := by rw [size_lateChecked]; exact hk
  have hk₂ : k < r.lateChecked.settleLate.size := by rw [size_settleLate]; exact hk₁
  rw [postCheckDeps_eq, ← r.needs_lateChecked hk, ← r.lateChecked.needs_settleLate hk₁, outline_release _ hk₂]
  split_ifs <;> rfl

/-- **What the late phase makes of a plugin** between two operations: it becomes runnable or is rejected if it was
past the dependency check, and else stays as it is. -/
theorem state_postCheckDeps (hk : k < r.size) (hne : (r.outline k).state ≠ .depsFinalized) :
    ((r.outline k).state = .depsChecked ∧ ((r.postCheckDeps.outline k).state = .runnable ∧
        (r.lateChecked.settleLate.outline k).state = .depsFinalized ∨
      (r.postCheckDeps.outline k).state.isRejected ∧
        (r.lateChecked.settleLate.outline k).state.isRejected)) ∨
      ((r.outline k).state ≠ .depsChecked ∧ (r.postCheckDeps.outline k).state = (r.outline k).state ∧
        (r.lateChecked.settleLate.outline k).state = (r.outline k).state) := by
  have hk₁ : k < r.lateChecked.size := by rw [size_lateChecked]; exact hk
  have hk₂ : k < r.lateChecked.settleLate.size := by rw [size_settleLate]; exact hk₁
  rw [postCheckDeps_eq, outline_release _ hk₂]
  by_cases hs : (r.outline k).state = .depsChecked
  · refine .inl ⟨hs, ?_⟩
    obtain ⟨_, _, state, ho, hstate, -⟩ := r.outline_lateChecked hk hs
    rcases r.lateChecked.settleLate_cases hk₁ with ⟨hl, -⟩ | ⟨state', -, hrej, hl, -⟩ <;> rw [hl]
    · rw [ho]
      rcases hstate with rfl | hrej
      · exact .inl ⟨rfl, rfl⟩
      · rw [if_neg fun h : state = .depsFinalized => nomatch h ▸ hrej]
        exact .inr ⟨hrej, hrej⟩
    · rw [if_neg fun h : state' = .depsFinalized => nomatch h ▸ hrej]
      exact .inr ⟨hrej, hrej⟩
  · refine .inr ⟨hs, ?_⟩
    have ho := r.outline_lateChecked_of_ne hk hs
    rcases r.lateChecked.settleLate_cases hk₁ with ⟨hl, -⟩ | ⟨-, hfin, -⟩
    · rw [hl, ho, if_neg hne]
      exact ⟨rfl, rfl⟩
    · exact absurd (ho ▸ hfin) hne

end Roster
end Calibration
