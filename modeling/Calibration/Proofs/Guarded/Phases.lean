/-
# The phases of bring-up without a mishap

The operations of a registry, told on its arrays, come to what they come to on a roster.  `Registry.Shows` says that
the arrays are those of the roster: the handles are, and the groups are, except that plugins loaded since the last
dependency check have none yet and no place for any.  Loading a plugin keeps this (`Registry.Shows.add`); the two phases
keep it as long as all groups are of plugins that are loaded (`Registry.Shows.checkDeps`,
`Registry.Shows.postCheckDeps`).

Each step of a lifecycle is allowed for a reason of its own: a new plugin is `loaded` and may go anywhere a load ends;
who is pending at the beginning of the dependency check is still `postLoaded` at its end, whatever was checked in
between; the late check asks for the state right before the step, and so do the rounds of late rejections and the
release.
-/

import Calibration.Proofs.BringUp.Groups
import Calibration.Proofs.BringUp.Loops
import Calibration.Proofs.Guarded.Walk

namespace Calibration

open BringUp BringUp.Check
open Guarded (Checked Registry lookUp update bind_of_ok lookUp_ok update_ok foldlM_ok)

namespace Roster

variable {r : Roster} {i : Nat}

/-- The groups of a plugin stand at its place in their array; where no plugin is there are none. -/
theorem requirements_getD (r : Roster) (i : Nat) : r.requirements[i]?.getD [] = (r.entry i).needs := by
  rcases Nat.lt_or_ge i r.size with hi | hi
  · rw [requirements_getElem? hi, Option.getD_some]
  · rw [List.getElem?_eq_none (length_requirements ▸ hi), needs_of_size_le hi, Option.getD_none]

/-- A step that is allowed changes one handle. -/
theorem handles_move {next : Lifecycle} (hs : (r.handle i).state.canEnter next) :
    (r.move i next).handles = r.handles.set i ((r.handle i).moved next) := by
  rw [move, if_pos hs]
  exact r.handles_modify i _

/-- **A call leaves one handle changed**, as its code ends: the busy mark that is set for the call is gone again by
then. -/
theorem handles_callLocal {α : Type} (step : Step) (code : LocalCode α) :
    (r.callLocal i step code).2.handles = r.handles.set i ((r.handle i).after (code.ending (r.handle i).memory)) := by
  have hcalled := called_callLocal r i step code
  refine List.ext_getElem? fun k => ?_
  by_cases hk : k < r.size
  · rw [handles_getElem? (hcalled.size.symm ▸ hk), handle, hcalled.entry, List.getElem?_set, length_handles,
      handles_getElem? hk]
    by_cases hik : i = k
    · subst hik
      rw [if_pos ⟨rfl, hk⟩, if_pos rfl, if_pos hk]
    · rw [if_neg fun h => hik h.1.symm, if_neg hik]
      rfl
  · have hk := Nat.not_lt.1 hk
    rw [List.getElem?_eq_none (by rw [length_handles, hcalled.size]; exact hk),
      List.getElem?_eq_none (by rw [List.length_set, length_handles]; exact hk)]

end Roster

namespace Guarded

variable {σ τ : Type} {isRejected : Nat → Bool} {isRejected' : Nat → Checked Bool}

/-! ### Loops -/

/-- A question asked of all members of a group without a mishap. -/
theorem allM_ok {group : List Nat} (h : ∀ j ∈ group, isRejected' j = .ok (isRejected j)) :
    group.allM isRejected' = .ok (group.all isRejected) := by
  induction group with
  | nil => rfl
  | cons j group ih =>
    obtain ⟨hj, hrest⟩ := List.forall_mem_cons.1 h
    rw [List.allM, bind_of_ok hj, List.all_cons]
    cases isRejected j with
    | true => exact ih hrest
    | false => rfl

/-- **The first failed group, looked for without a mishap**, is the one that the loops of bring-up find.  Each member
has to be looked up, and all that is asked for is that each look-up goes well. -/
theorem failedGroup?_ok {groups : List (List Nat)} (h : ∀ g ∈ groups, ∀ j ∈ g, isRejected' j = .ok (isRejected j)) :
    failedGroup? groups isRejected' = .ok (groups.find? fun g => !g.isEmpty && g.all isRejected) := by
  induction groups with
  | nil => rfl
  | cons g groups ih =>
    obtain ⟨hg, hrest⟩ := List.forall_mem_cons.1 h
    have hhead : (if g.isEmpty then return false else g.allM isRejected' : Checked Bool) =
        .ok (!g.isEmpty && g.all isRejected) := by
      cases g.isEmpty with
      | true => rfl
      | false => exact allM_ok hg
    rw [failedGroup?, List.findM?, bind_of_ok hhead, List.find?_cons]
    cases !g.isEmpty && g.all isRejected with
    | true => rfl
    | false => exact ih hrest

section Rounds

variable {step : σ → Nat → Option σ} {step' : τ → Nat → Checked (Option τ)} {F : σ → τ} {P : σ → Prop}
  {places : List Nat} {s s' : σ}
  (hstep : ∀ i ∈ places, ∀ s, P s → step' (F s) i = .ok ((step s i).map F) ∧ ∀ s', step s i = some s' → P s')
include hstep

/-- A round without a mishap comes to what the round of the loop comes to, and keeps what each step needs. -/
theorem round_ok (h : P s) :
    round step' places (F s) = .ok ((Loop.round step places s).1, F (Loop.round step places s).2) ∧
      P (Loop.round step places s).2 := by
  induction places generalizing s with
  | nil => exact ⟨rfl, h⟩
  | cons i rest ih =>
    obtain ⟨hi, hrest⟩ := List.forall_mem_cons.1 hstep
    obtain ⟨heq, hkeep⟩ := hi s h
    rw [round, bind_of_ok heq, Loop.round]
    cases hs : step s i with
    | none => exact ih hrest h
    | some s₁ =>
      obtain ⟨heq', hP⟩ := ih hrest (hkeep s₁ hs)
      exact ⟨bind_of_ok heq' _, hP⟩

/-- **Rounds without a mishap** come to what the loop comes to, and the loop that ends within its rounds does so here,
too. -/
theorem rounds_ok {k : Nat} (h : P s) (hrun : Loop.run step places k s = some s') :
    rounds step' places k (F s) = .ok (F s') ∧ P s' := by
  induction k generalizing s with
  | zero => exact nomatch hrun
  | succ k ih =>
    obtain ⟨heq, hP⟩ := round_ok hstep h
    rw [Loop.run] at hrun
    rw [rounds, bind_of_ok heq]
    rcases hround : Loop.round step places s with ⟨_ | _, s₁⟩ <;> rw [hround] at hrun hP
    · obtain rfl := Option.some.inj hrun
      exact ⟨rfl, hP⟩
    · exact ih hP hrun

end Rounds

/-- The reason of a rejection is put together without a mishap, as the members of a group have names. -/
theorem dependencyReason_ok {r : Roster} {group : List Nat} (h : ∀ j ∈ group, j < r.size) :
    dependencyReason r.handles group = .ok (BringUp.dependencyReason r group) := by
  have hnames : (group.mapM fun j => return (← lookUp r.handles j).name) =
      (.ok (group.map fun j => (r.handle j).name) : Checked _) :=
    mapM_ok fun j hj => bind_of_ok (lookUp_ok (Roster.handles_getElem? (h j hj))) _
  exact bind_of_ok hnames _

/-- A call of code that tends its own plugin, told by how the code ends. -/
theorem invoke_eq {α : Type} (h : Handle) (code : LocalCode α) :
    invoke h code = ((code.ending h.memory).1.mapError Halt.error, h.after (code.ending h.memory)) := by
  have hleave (ending : Except Halt α × Dict) : ({ h.enter with memory := ending.2 } : Handle).leave ending.1 =
      (ending.1.mapError Halt.error, h.after ending) := by
    obtain ⟨_ | _, memory⟩ := ending <;> rfl
  exact hleave (code.ending h.memory)

/-- **A phase of one plugin**: whichever way its code ends, the plugin may go there.  Both states are allowed from the
one in which the phase begins. -/
theorem attempt_ok {r : Roster} {i : Nat} (hi : i < r.size) (step : Step) (code : LocalCode Unit) (stage : BringUpStage)
    {next : Lifecycle} (hnext : (r.handle i).state.canEnter next)
    (hrejected : ∀ reason, (r.handle i).state.canEnter (.rejected stage reason)) :
    ∃ h, attempt (r.handle i) code stage next = .ok h ∧
      (match r.callLocal i step code with
        | (.ok _, r) => r.move i next
        | (.error e, r) => r.move i (.rejected stage e.message)).handles = r.handles.set i h := by
  have hcalled := Roster.called_callLocal r i step code
  have hhandles := Roster.handles_callLocal (r := r) (i := i) step code
  have hhandle : (r.callLocal i step code).2.handle i = (r.handle i).after (code.ending (r.handle i).memory) := by
    rw [Roster.handle, hcalled.entry, if_pos ⟨rfl, hi⟩]
  have hmove {s : Lifecycle} (hs : (r.handle i).state.canEnter s) :
      ((r.callLocal i step code).2.move i s).handles =
        r.handles.set i (((r.handle i).after (code.ending (r.handle i).memory)).moved s) := by
    rw [Roster.handles_move (by rw [hhandle]; exact hs), hhandles, hhandle, List.set_set]
  rw [attempt, invoke_eq, ← hcalled.result]
  rcases hcall : r.callLocal i step code with ⟨e | _, r'⟩ <;> rw [hcall] at hmove
  · exact ⟨_, advance_ok (hrejected e.message), hmove (hrejected e.message)⟩
  · exact ⟨_, advance_ok hnext, hmove hnext⟩

/-- A step of a plugin that its lifecycle allows. -/
theorem update_advance {r : Roster} {i : Nat} {next : Lifecycle} (hi : i < r.size)
    (hs : (r.handle i).state.canEnter next) : update r.handles i (advance · next) = .ok (r.move i next).handles := by
  rw [update_ok (Roster.handles_getElem? hi) (advance_ok hs), Roster.handles_move hs]

end Guarded

namespace BringUp
namespace Check

open Guarded (Walk)

variable {c : Check} {n d i : Nat}

/-! ### The end of the dependency check -/

/-- **A rejection on the marks without a mishap**: the members of a group have marks and names.  They are plugins of
the roster, and the marks are as many. -/
theorem withdraw_apart (h : c.Sized n d) (hg : c.roster.Grouped) (hi : i < n) :
    c.apart.withdraw i = .ok ((c.withdraw? i).map apart) := by
  have hmem : ∀ g ∈ (c.roster.entry i).needs, ∀ j ∈ g, j < n := fun g hm j hj => h.size ▸ (hg i g hm).lt_size j hj
  rw [Walk.withdraw, bind_of_ok (lookUp_ok (h.marks? hi)), withdraw?]
  split_ifs
  · have hread : ∀ g ∈ (c.roster.entry i).needs, ∀ j ∈ g,
        (return (← lookUp c.apart.marks j).isRejected) = (.ok (c.mark j).isRejected : Checked Bool) := fun g hm j hj =>
      bind_of_ok (lookUp_ok (h.marks? (hmem g hm j hj))) _
    have hfailed := Guarded.failedGroup?_ok hread
    refine (bind_of_ok (lookUp_ok (h.requires? hi)) _).trans ((bind_of_ok hfailed _).trans ?_)
    cases hfind : (c.roster.entry i).needs.find? fun g => !g.isEmpty && g.all fun j => (c.mark j).isRejected with
    | none => rfl
    | some group =>
      have hreason := Guarded.dependencyReason_ok (hg i group (List.mem_of_find?_eq_some hfind)).lt_size
      exact (bind_of_ok hreason _).trans (bind_of_ok (setMark_apart h hi _) _)
  · rfl

/-- Pending at the beginning is who has tended itself and was not checked yet. -/
theorem initialMark_eq_pending {s : Lifecycle} : initialMark s = .pending ↔ s = .postLoaded := by
  cases s <;> simp [initialMark]

/-- Who is pending at the beginning of the check. -/
theorem pending_getElem? {r : Roster} (hi : i < r.size) :
    ((start r).marks.map fun m => decide (m = .pending))[i]? = some (decide ((r.outline i).state = .postLoaded)) := by
  have hentry : r.entries[i]? = some (r.entry i) := by
    rw [Roster.entry, List.getElem?_eq_getElem hi]
    rfl
  rw [start, List.map_map, List.getElem?_map, hentry, Option.map_some]
  exact congrArg some (decide_eq_decide.2 initialMark_eq_pending)

/-- **The verdicts without a mishap**: who was pending at the beginning has not moved since, so that its verdict is a
step that its lifecycle allows. -/
theorem finish_apart {r : Roster} (h : c.Sized r.size d)
    (hstate : ∀ k, (c.roster.outline k).state = (r.outline k).state) :
    c.apart.finish ((start r).marks.map fun m => decide (m = .pending)) = .ok c.finish.handles := by
  -- Places that the loop has not reached yet are as they were at the beginning of the check.
  let Left (i : Nat) (r' : Roster) : Prop :=
    r'.size = r.size ∧ ∀ k, i ≤ k → (r'.outline k).state = (r.outline k).state
  have hlength : c.apart.handles.length = r.size := Roster.length_handles.trans h.size
  rw [Walk.finish, finish, hlength, h.size]
  refine (foldlM_ok (F := Roster.handles) (P := Left) ⟨h.size, fun k _ => hstate k⟩ fun i hi r' ⟨hsize, hleft⟩ => ?_).1
  rw [bind_of_ok (lookUp_ok (pending_getElem? hi)), Roster.state_handle, hleft i (Nat.le_refl i)]
  by_cases hs : (r.outline i).state = .postLoaded
  · have hallowed : (r'.handle i).state.canEnter (verdict (c.mark i)) := by
      rw [Roster.state_handle, hleft i (Nat.le_refl i), hs]
      exact canEnter_verdict _
    rw [if_pos (decide_eq_true hs), if_pos hs]
    refine ⟨(bind_of_ok (lookUp_ok (h.marks? hi)) _).trans (Guarded.update_advance (hsize ▸ hi) hallowed),
      (Roster.size_move ..).trans hsize, fun k hk => ?_⟩
    rw [Roster.outline_move_of_ne _ _ _ _ (Nat.ne_of_gt hk)]
    exact hleft k (Nat.le_of_succ_le hk)
  · rw [if_neg (by rw [decide_eq_true_iff]; exact hs), if_neg hs]
    exact ⟨rfl, hsize, fun k hk => hleft k (Nat.le_of_succ_le hk)⟩

end Check
end BringUp

namespace Guarded
namespace Registry

/-- The arrays are those of a roster; plugins loaded since the last dependency check have no groups yet. -/
structure Shows (g : Registry) (r : Roster) : Prop where
  handles : g.handles = r.handles
  length : g.requires.length ≤ r.size
  requires : ∀ i, g.requires[i]?.getD [] = (r.entry i).needs

variable {g : Registry} {r : Roster} {i : Nat}

/-- A registry without plugins shows a roster without any. -/
theorem shows_empty : Shows {} {} := ⟨rfl, Nat.le_refl 0, fun _ => rfl⟩

/-- Once the groups have a place for each plugin they are those of the roster. -/
theorem Shows.resized_eq (h : g.Shows r) : resized g.requires r.size = r.requirements := by
  rw [resized, List.take_of_length_le h.length]
  refine List.ext_getElem? fun k => ?_
  have hneeds := h.requires k
  rcases Nat.lt_or_ge k g.requires.length with hk | hk
  · rw [List.getElem?_eq_getElem hk] at hneeds
    rw [List.getElem?_append_left hk, List.getElem?_eq_getElem hk,
      Roster.requirements_getElem? (Nat.lt_of_lt_of_le hk h.length), ← hneeds]
    rfl
  · rw [List.getElem?_eq_none hk] at hneeds
    rw [List.getElem?_append_right hk, List.getElem?_replicate]
    split_ifs with hlt
    · rw [Roster.requirements_getElem? (by omega), ← hneeds]
      rfl
    · rw [List.getElem?_eq_none (by rw [Roster.length_requirements]; omega)]

/-! ### The dependency check -/

/-- All rejections on the marks without a mishap. -/
theorem rounds_withdraw {c : Check} {n d : Nat} (h : c.Sized n d) (hg : c.roster.Grouped) :
    rounds Walk.withdraw (List.range n) (n + 1) c.apart = .ok c.settled.apart ∧ c.settled.Sized n d := by
  have hstep : ∀ i ∈ List.range n, ∀ c' : Check, c'.Sized n d ∧ c'.roster.Grouped →
      c'.apart.withdraw i = .ok ((c'.withdraw? i).map apart) ∧
        ∀ c'', c'.withdraw? i = some c'' → c''.Sized n d ∧ c''.roster.Grouped := by
    rintro i hi c' ⟨hsized, hgrouped⟩
    refine ⟨withdraw_apart hsized hgrouped (List.mem_range.1 hi), fun c'' hc'' => ?_⟩
    rw [withdraw?] at hc''
    split_ifs at hc''
    obtain ⟨group, -, rfl⟩ := Option.map_eq_some_iff.1 hc''
    exact ⟨hsized.setMark i (by simp), hgrouped⟩
  obtain ⟨_, hrun, rfl⟩ := (ends_withdraw (h.length.trans h.size.symm)).stops
  rw [h.size] at hrun
  obtain ⟨heq, hsettled, -⟩ := rounds_ok hstep ⟨h, hg⟩ hrun
  exact ⟨heq, hsettled⟩

/-- **The dependency check without a mishap**: the walk, the rejections on the marks and the verdicts, one after the
other. -/
theorem Shows.checkDeps (h : g.Shows r) (hg : r.Grouped) : ∃ g', g.checkDeps = .ok g' ∧ g'.Shows r.checkDeps := by
  have hmarks : (r.handles.map fun h => initialMark h.state) = (start r).marks := List.map_map
  have hstart : (start r).Sized r.size (start r).pendingCount := ⟨rfl, length_start r, Nat.le_refl _⟩
  obtain ⟨hasked, hsized⟩ := askAll_apart hstart
  obtain ⟨hsettled, hsized⟩ := rounds_withdraw hsized (grouped_askAll (c := start r) hg)
  have hfinished := finish_apart hsized (progress_asked r).state
  refine ⟨⟨r.checkDeps.handles, (asked r).roster.requirements⟩, ?_, rfl, ?_, fun i => ?_⟩
  · rw [Registry.checkDeps, h.handles, Roster.length_handles, hmarks, h.resized_eq]
    exact (bind_of_ok hasked _).trans ((bind_of_ok hsettled _).trans (bind_of_ok hfinished _))
  · rw [Roster.length_requirements, size_asked, Roster.size_checkDeps]
  · rw [Roster.needs_entry_checkDeps, Roster.requirements_getD]

/-! ### Loading -/

/-- **A plugin is loaded without a mishap**, and comes last.  It is free when it is called, and both moves that can
follow are legal. -/
theorem tend_ok (r : Roster) (plugin : Plugin) (origin : Origin) (version? : Option (Nat × Nat)) :
    ∃ x, tend plugin = .ok x ∧ x.plugin = plugin ∧ (r.add plugin origin version?).handles = r.handles ++ [x] := by
  let r₀ : Roster := { r with entries := r.entries ++ [{ handle := .ofPlugin plugin, origin, version? : Entry }] }
  have hsize : r₀.size = r.size + 1 := List.length_append
  have hnew : r₀.handle r.size = .ofPlugin plugin := by rw [Roster.handle, Roster.entry_append, if_pos rfl]
  have hhandles : r₀.handles = r.handles ++ [.ofPlugin plugin] := List.map_append
  have hnext : (r₀.handle r.size).state.canEnter .postLoaded := by rw [hnew]; rfl
  obtain ⟨x, hx, hset⟩ := attempt_ok (r := r₀) (by omega) (.bringUp .postLoad) plugin.postLoad .postLoad hnext
    fun reason => by rw [hnew]; rfl
  have hlast : r₀.handles.set r.size x = r.handles ++ [x] := by
    rw [hhandles, List.set_append_right _ _ (Nat.le_of_eq Roster.length_handles), Roster.length_handles, Nat.sub_self]
    rfl
  have hadded : (r.add plugin origin version?).handles = r.handles ++ [x] := hset.trans hlast
  have hplugin : x.plugin = plugin := by
    obtain ⟨state, -, -, ho⟩ := r.outline_add plugin origin version?
    have hlt : r.size < (r.add plugin origin version?).size := by rw [Roster.size_add]; omega
    have hx := Roster.handles_getElem? hlt
    rw [hadded, List.getElem?_append_right (Nat.le_of_eq Roster.length_handles), Roster.length_handles,
      Nat.sub_self] at hx
    rw [Option.some.inj hx]
    exact congrArg Outline.plugin ((ho r.size).trans (if_pos rfl))
  rw [hnew] at hx
  exact ⟨x, hx, hplugin, hadded⟩

/-- **Loading without a mishap**: the new plugin has a handle and no place for groups yet.  The next check makes one
for it. -/
theorem Shows.add (h : g.Shows r) (plugin : Plugin) (origin : Origin) (version? : Option (Nat × Nat)) :
    ∃ g', g.add plugin = .ok g' ∧ g'.Shows (r.add plugin origin version?) := by
  obtain ⟨x, htend, -, hhandles⟩ := tend_ok r plugin origin version?
  refine ⟨{ g with handles := g.handles ++ [x] }, bind_of_ok htend _, ?_, ?_, fun i => ?_⟩
  · rw [hhandles, h.handles]
  · exact Nat.le_trans h.length (by rw [Roster.size_add]; exact Nat.le_succ _)
  · rw [Roster.needs_add]
    exact h.requires i

/-! ### The late check -/

/-- The late check of a plugin without a mishap. -/
theorem checkLate_handles (hi : i < r.size) : checkLate r.handles i = .ok (r.checkLate i).handles := by
  have hviews : r.handles.map (·.view) = r.views := List.map_map
  rw [checkLate, Roster.checkLate, hviews]
  split_ifs with hs
  · have hnext : (r.handle i).state.canEnter .depsFinalized := by rw [hs]; rfl
    obtain ⟨h, hattempt, hset⟩ := attempt_ok hi (.bringUp .postCheckDeps) ((r.handle i).plugin.postCheckDeps r.views)
      .postCheckDeps hnext fun reason => by rw [hs]; rfl
    rw [update_ok (Roster.handles_getElem? hi) ((if_pos hs).trans hattempt)]
    exact congrArg Except.ok hset.symm
  · rw [update_ok (Roster.handles_getElem? hi) (if_neg hs), Roster.handles_set hi]

/-- **A late rejection without a mishap**: a plugin that has passed all phases may still be rejected.  Others are not
touched by the loop. -/
theorem withdrawLate_handles (hg : r.Grouped) (hneeds : g.requires[i]?.getD [] = (r.entry i).needs) (hi : i < r.size) :
    withdrawLate g.requires r.handles i = .ok ((r.withdrawLate? i).map Roster.handles) := by
  rw [withdrawLate, bind_of_ok (lookUp_ok (Roster.handles_getElem? hi)), Roster.withdrawLate?, hneeds]
  split_ifs with hs
  · have hread : ∀ g ∈ (r.entry i).needs, ∀ j ∈ g,
        (return (← lookUp r.handles j).state.isRejected) = (.ok (r.handle j).state.isRejected : Checked Bool) :=
      fun g hm j hj => bind_of_ok (lookUp_ok (Roster.handles_getElem? ((hg i g hm).lt_size j hj))) _
    have hfailed := failedGroup?_ok hread
    refine (bind_of_ok hfailed _).trans ?_
    cases hfind : (r.entry i).needs.find? fun g => !g.isEmpty && g.all fun j => (r.handle j).state.isRejected with
    | none => rfl
    | some group =>
      have hreason := dependencyReason_ok (hg i group (List.mem_of_find?_eq_some hfind)).lt_size
      exact (bind_of_ok hreason _).trans (bind_of_ok (update_advance hi (by rw [hs]; rfl)) _)
  · rfl

/-- The release of a plugin without a mishap. -/
theorem release_handles (hi : i < r.size) :
    release r.handles i = .ok (if (r.handle i).state = .depsFinalized then r.move i .runnable else r).handles := by
  rw [release]
  split_ifs with hs
  · have hallowed : (r.handle i).state.canEnter .runnable := by rw [hs]; rfl
    rw [update_ok (Roster.handles_getElem? hi) ((if_pos hs).trans (advance_ok hallowed)), Roster.handles_move hallowed]
  · rw [update_ok (Roster.handles_getElem? hi) (if_neg hs), Roster.handles_set hi]

/-- A phase that goes from plugin to plugin without a mishap, if it does so at each of them. -/
theorem foldlM_handles {f : Roster → Nat → Roster} {f' : List Handle → Nat → Checked (List Handle)}
    (hstep : ∀ r i, i < r.size → f' r.handles i = .ok (f r i).handles) (hsize : ∀ r i, (f r i).size = r.size)
    (r : Roster) : (List.range r.size).foldlM f' r.handles = .ok ((List.range r.size).foldl f r).handles :=
  (foldlM_ok (P := fun _ r' => r'.size = r.size) rfl fun i hi r' hr =>
    ⟨hstep r' i (hr.symm ▸ hi), (hsize r' i).trans hr⟩).1

/-- All late rejections without a mishap. -/
theorem rounds_withdrawLate (hg : r.Grouped) (hneeds : ∀ i, g.requires[i]?.getD [] = (r.entry i).needs) :
    rounds (withdrawLate g.requires) (List.range r.size) (r.size + 1) r.handles = .ok r.settleLate.handles := by
  -- Rejections change states only, so that groups are of loaded plugins throughout.
  let Same (r' : Roster) : Prop := r'.size = r.size ∧ ∀ k, (r'.entry k).needs = (r.entry k).needs
  have hstep : ∀ i ∈ List.range r.size, ∀ r', Same r' →
      withdrawLate g.requires r'.handles i = .ok ((r'.withdrawLate? i).map Roster.handles) ∧
        ∀ r'', r'.withdrawLate? i = some r'' → Same r'' := by
    rintro i hi r' ⟨hsize, hsame⟩
    refine ⟨withdrawLate_handles (g := g) ?_ ((hneeds i).trans (hsame i).symm) ?_, fun r'' hr'' => ?_⟩
    · exact hg.of_needs (Nat.le_of_eq hsize.symm) hsame
    · exact hsize.symm ▸ List.mem_range.1 hi
    · rw [Roster.withdrawLate?] at hr''
      split_ifs at hr''
      obtain ⟨group, -, rfl⟩ := Option.map_eq_some_iff.1 hr''
      refine ⟨(Roster.size_move ..).trans hsize, fun k => ?_⟩
      rw [← hsame k, Roster.entry_move]
      split_ifs <;> rfl
  obtain ⟨r', hrun, hentries⟩ := (Roster.ends_withdrawLate r).stops
  have hhandles : r'.handles = r.settleLate.handles := congrArg (List.map Entry.handle) hentries
  rw [← hhandles]
  exact (rounds_ok hstep ⟨rfl, fun _ => rfl⟩ hrun).1

/-- **The late phase without a mishap.**  All groups are of plugins that are loaded, and that is enough for each
access. -/
theorem Shows.postCheckDeps (h : g.Shows r) (hg : r.Grouped) :
    ∃ g', g.postCheckDeps = .ok g' ∧ g'.Shows r.postCheckDeps := by
  have hneeds : ∀ k, (r.lateChecked.entry k).needs = (r.entry k).needs := by
    intro k
    rcases Nat.lt_or_ge k r.size with hk | hk
    · exact r.needs_lateChecked hk
    · rw [Roster.needs_of_size_le hk, Roster.needs_of_size_le (r.size_lateChecked.symm ▸ hk)]
  have hgrouped : r.lateChecked.Grouped := hg.of_needs (Nat.le_of_eq r.size_lateChecked.symm) hneeds
  have hsettled := rounds_withdrawLate hgrouped fun i => (h.requires i).trans (hneeds i).symm
  have hchecked := foldlM_handles (fun _ _ hi => checkLate_handles hi) Roster.size_checkLate r
  have hsize (r : Roster) (i : Nat) :
      (if (r.handle i).state = .depsFinalized then r.move i .runnable else r).size = r.size := by
    split_ifs
    · exact Roster.size_move ..
    · rfl
  have hreleased : (List.range r.lateChecked.settleLate.size).foldlM release r.lateChecked.settleLate.handles =
      .ok r.lateChecked.settleLate.release.handles :=
    foldlM_handles (fun _ _ hi => release_handles hi) hsize r.lateChecked.settleLate
  rw [Roster.size_settleLate, Roster.size_lateChecked] at hreleased
  rw [Roster.size_lateChecked] at hsettled
  refine ⟨{ g with handles := r.postCheckDeps.handles }, ?_, rfl, ?_, fun i => ?_⟩
  · rw [Registry.postCheckDeps, h.handles, Roster.length_handles, List.length_range]
    exact (bind_of_ok hchecked _).trans ((bind_of_ok hsettled _).trans (bind_of_ok hreleased _))
  · rw [r.size_postCheckDeps]
    exact h.length
  · rw [Roster.needs_entry_postCheckDeps]
    exact h.requires i

/-- A group of a plugin that is not loaded is a mishap. -/
example : postCheckDeps ⟨[{ Handle.ofPlugin { name := "A" } with state := .depsFinalized }], [[[1]]]⟩ =
    .error (.outOfRange 1 1) := rfl

end Registry
end Guarded
end Calibration
