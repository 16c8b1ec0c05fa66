/-
# The sensor that a white point has chosen

The white point keeps the name of the first sensor that its dependency check was given, and looks that name up on every
run.  Its own acceptance asks for less: that some sensor of the group is left.  `HasChosen` says what stands in its
memory once it is accepted; the walk through the dependency checks establishes it (`Chooses`), and nothing after it
touches that memory.  So a runnable white point has a runnable sensor in its group, but the name that it kept leads to
a plugin only if one of that name is left.
-/

import Calibration.Demo.SimSensor
import Calibration.Proofs.BringUp.Acceptance
import Calibration.Proofs.BringUp.Collaborators
import Calibration.Proofs.Demo.Reading
import Calibration.Proofs.Roster.LocalCalls

namespace Calibration

open BringUp BringUp.Check

/-- A name that is kept is found again. -/
theorem WhitePoint.sensor?_set (memory : Dict) (name : String) :
    WhitePoint.sensor? (memory.set "sensor" (.string name)) = some name := by
  simp [WhitePoint.sensor?, Dict.getString?, Dict.get?, Dict.set, Assoc.find?_set]

/-- A move in the lifecycle leaves the memory as it is. -/
theorem Handle.memory_moved (h : Handle) (next : Lifecycle) : (h.moved next).memory = h.memory := by
  unfold Handle.moved Handle.transition
  split_ifs
  · cases next <;> rfl
  · rfl

namespace Roster

variable {α : Type} {r r' : Roster} {i w : Nat}

/-! ### What touches the memory of a plugin -/

/-- What changes no memory at one place changes none at any. -/
theorem memory_modifyHandle {f : Handle → Handle} (hf : ∀ h, (f h).memory = h.memory) :
    ((r.modifyHandle i f).handle w).memory = (r.handle w).memory := by
  rw [handle_modifyHandle]
  split_ifs
  · exact hf _
  · rfl

/-- The begin of a call leaves all memories as they are. -/
theorem memory_enter (step : Step) : ((r.enter i step).handle w).memory = (r.handle w).memory :=
  memory_modifyHandle fun _ => rfl

/-- A call leaves its memory at its own place. -/
theorem memory_leave (step : Step) (memory : Dict) (result : Except Halt α) :
    ((r.leave i step memory result).2.handle w).memory =
      if w = i ∧ i < r.size then memory else (r.handle w).memory := by
  have hlog : ∀ (r : Roster) (event : Event), (r.log event).handle w = r.handle w := fun _ _ => rfl
  cases result <;>
  · rw [leave, hlog, handle_modifyHandle]
    split_ifs <;> rfl

/-- Code that tends its own plugin leaves the memories of all others as they are. -/
theorem memory_callLocal_of_ne (h : w ≠ i) (step : Step) (code : LocalCode α) :
    ((r.callLocal i step code).2.handle w).memory = (r.handle w).memory := by
  rw [handle, (called_callLocal r i step code).entry, if_neg fun hw => h hw.1]
  rfl

/-! ### The choice -/

/-- The plugin at a place has kept the name of the first of a group of sensors that it needs. -/
def HasChosen (r : Roster) (w : Nat) : Prop :=
  ∃ chosen rest, (chosen :: rest) ∈ (r.outline w).needs ∧
    WhitePoint.sensor? (r.handle w).memory = some (r.outline chosen).plugin.name ∧
    ∀ j ∈ chosen :: rest, j < r.size ∧ j ≠ w ∧ (r.outline j).plugin.attributes.contains Attribute.sensor

/-- Plugins, memory and groups of a place are kept. -/
structure Keeps (w : Nat) (r r' : Roster) : Prop where
  size : r'.size = r.size
  plugin : ∀ k, (r'.outline k).plugin = (r.outline k).plugin
  needs : ∀ g ∈ (r.outline w).needs, g ∈ (r'.outline w).needs
  memory : (r'.handle w).memory = (r.handle w).memory

/-- What keeps the memory and the groups of the place keeps the choice. -/
theorem HasChosen.mono (h : r.HasChosen w) (hk : r.Keeps w r') : r'.HasChosen w := by
  obtain ⟨chosen, rest, hneeds, hsensor, hgroup⟩ := h
  refine ⟨chosen, rest, hk.needs _ hneeds, ?_, fun j hj => ?_⟩
  · rw [hk.memory, hk.plugin, hsensor]
  · rw [hk.size, hk.plugin]
    exact hgroup j hj

/-- A place that is kept twice is kept. -/
theorem Keeps.trans {r'' : Roster} (h : r.Keeps w r') (h' : r'.Keeps w r'') : r.Keeps w r'' where
  size := h'.size.trans h.size
  plugin k := (h'.plugin k).trans (h.plugin k)
  needs g hg := h'.needs g (h.needs g hg)
  memory := h'.memory.trans h.memory

/-- Where nothing happens a place is kept. -/
theorem Keeps.refl (w : Nat) (r : Roster) : r.Keeps w r := ⟨rfl, fun _ => rfl, fun _ h => h, rfl⟩

/-- A place is kept if the outlines are and its memory is. -/
theorem Keeps.of_outlines_eq (ho : r'.outlines = r.outlines) (hm : (r'.handle w).memory = (r.handle w).memory) :
    r.Keeps w r' where
  size := size_of_outlines_eq ho
  plugin k := congrArg _ (outline_of_outlines_eq ho k)
  needs g hg := by rwa [outline_of_outlines_eq ho]
  memory := hm

/-- A change that touches neither plugins nor memories keeps every place. -/
theorem keeps_modifyHandle {f : Handle → Handle} (hp : ∀ h, (f h).plugin = h.plugin)
    (hm : ∀ h, (f h).memory = h.memory) : r.Keeps w (r.modifyHandle i f) := by
  have houtline : ∀ k, ((r.modifyHandle i f).outline k).plugin = (r.outline k).plugin ∧
      ((r.modifyHandle i f).outline k).needs = (r.outline k).needs := by
    intro k
    rw [outline, modifyHandle, entry_modify, outline]
    split_ifs
    · exact ⟨hp _, rfl⟩
    · exact ⟨rfl, rfl⟩
  exact ⟨size_modify .., fun k => (houtline k).1, fun g hg => by rwa [(houtline w).2], memory_modifyHandle hm⟩

/-- So does a move. -/
theorem keeps_move (next : Lifecycle) : r.Keeps w (r.move i next) := by
  unfold move
  split_ifs
  · have h : r.Keeps w (r.modifyHandle i (·.moved next)) :=
      keeps_modifyHandle (fun h => h.plugin_moved next) fun h => h.memory_moved next
    exact ⟨h.size, h.plugin, h.needs, h.memory⟩
  · exact .refl w r

/-- Code that does nothing leaves a memory as it is. -/
theorem memory_callLocal_pure (step : Step) (a : α) :
    ((r.callLocal i step (pure a)).2.handle w).memory = (r.handle w).memory := by
  rw [handle, (called_callLocal r i step (pure a)).entry]
  split_ifs <;> rfl

/-- The late check leaves the white point as it is. -/
theorem keeps_checkLate (hw : (r.outline w).plugin = WhitePoint.plugin) (i : Nat) : r.Keeps w (r.checkLate i) := by
  have hcall : r.Keeps w (r.callLocal i (.bringUp .postCheckDeps) ((r.handle i).plugin.postCheckDeps r.views)).2 := by
    refine .of_outlines_eq (outlines_callLocal ..) ?_
    by_cases hi : w = i
    · subst hi
      rw [show (r.handle w).plugin = _ from hw]
      exact memory_callLocal_pure _ ()
    · exact memory_callLocal_of_ne hi _ _
  unfold checkLate
  split_ifs
  · split <;> next heq => rw [heq] at hcall; exact hcall.trans (keeps_move _)
  · exact .refl w r

end Roster

namespace BringUp
namespace Check

variable {c c' : Check} {w i : Nat}

/-- **What the check of the white point comes to**: it fails, or it keeps the name of the first sensor.  Of the others
in the group no name is kept. -/
theorem run_checkDeps (serve : (q : needSignature.noting.Request) → Check → needSignature.noting.Reply q × Check)
    (views : List PluginView) (memory : Dict) (c : Check) :
    ((WhitePoint.checkDeps views).run.run memory).run serve c =
      match serve (.other (.requireAttributes [Attribute.sensor])) c with
      | (.error e, c) => ((.error (.failed e), memory), c)
      | (.ok [], c) => ((.ok (), memory.erase "sensor"), c)
      | (.ok (s :: _), c) => ((.ok (), memory.set "sensor" (.string s.name)), c) := by
  obtain ⟨next, hask, herror, hnil, hcons⟩ : ∃ next, (WhitePoint.checkDeps views).run.run memory =
      .ask (.other (.requireAttributes [Attribute.sensor])) next ∧
        (∀ e, next (.error e) = .done (.error (.failed e), memory)) ∧
          next (.ok []) = .done (.ok (), memory.erase "sensor") ∧
          ∀ s rest, next (.ok (s :: rest)) = .done (.ok (), memory.set "sensor" (.string s.name)) :=
    ⟨_, rfl, fun _ => rfl, rfl, fun _ _ => rfl⟩
  rw [hask]
  change ((next (serve (.other (.requireAttributes [Attribute.sensor])) c).1).run serve
    (serve (.other (.requireAttributes [Attribute.sensor])) c).2) = _
  rcases serve (.other (.requireAttributes [Attribute.sensor])) c with ⟨e | _ | ⟨s, rest⟩, c⟩
  · simp only [herror e]
    rfl
  · simp only [hnil]
    rfl
  · simp only [hcons s rest]
    rfl

/-- A check of the white point that ends well records a group and keeps the name of its first member. -/
theorem run_program {ask : Nat → Check → Bool × Check} (hask : ∀ j (c : Check), c.Progress (ask j c).2)
    (hplugin : (c.roster.outline w).plugin = WhitePoint.plugin)
    (hok : ((c.program w).run (serve ask w) (c.entered w)).1.1.isOk) :
    ∃ chosen rest c₂, (c.entered w).Progress c₂ ∧
      (∀ j ∈ chosen :: rest, j ∈ (c.entered w).candidates w (·.hasAttributes [Attribute.sensor])) ∧
      (c.program w).run (serve ask w) (c.entered w) =
        ((.ok (), (c.roster.handle w).memory.set "sensor" (.string (c₂.roster.outline chosen).plugin.name)),
          c₂.addNeed w (chosen :: rest)) := by
  have hrun := run_checkDeps (serve ask w) c.roster.views (c.roster.handle w).memory (c.entered w)
  have hprogram : c.program w = (WhitePoint.checkDeps c.roster.views).run.run (c.roster.handle w).memory := by
    rw [program, show (c.roster.handle w).plugin = WhitePoint.plugin from hplugin]
    rfl
  rw [← hprogram] at hrun
  obtain ⟨hprogress, hmem⟩ := progress_allPassing hask
    ((c.entered w).candidates w (·.hasAttributes [Attribute.sensor])) (c.entered w)
  simp only [serve] at hrun
  rcases hgroup : allPassing ask ((c.entered w).candidates w (·.hasAttributes [Attribute.sensor])) (c.entered w) with
    ⟨_ | ⟨chosen, rest⟩, c₂⟩
  · rw [hgroup] at hrun
    rw [hrun] at hok
    cases hok
  · rw [hgroup] at hrun hprogress hmem
    exact ⟨chosen, rest, c₂, hprogress, hmem, hrun⟩

/-- **A check of the white point that ends well is a choice.**  The group that it was given is on record by then, and
the name of its first member is what the memory holds when the call is over. -/
theorem hasChosen_of_callCheck {ask : Nat → Check → Bool × Check} (hask : ∀ j (c : Check), c.Progress (ask j c).2)
    (hplugin : (c.roster.outline w).plugin = WhitePoint.plugin) (hw : w < c.roster.size)
    (hok : (callCheck ask w c).1.isOk) : (callCheck ask w c).2.roster.HasChosen w := by
  obtain ⟨hisOk, -, houtlines⟩ := callCheck_eq ask w c
  obtain ⟨chosen, rest, c₂, hprogress, hmem, hrun⟩ := run_program hask hplugin (hisOk ▸ hok)
  have hmemory (hlt : w < ((c.program w).run (serve ask w) (c.entered w)).2.roster.size) :
      ((callCheck ask w c).2.roster.handle w).memory = ((c.program w).run (serve ask w) (c.entered w)).1.2 :=
    (Roster.memory_leave ..).trans (if_pos ⟨rfl, hlt⟩)
  rw [hrun] at houtlines hmemory
  have hentered : (c.entered w).roster.outlines = c.roster.outlines := Roster.outlines_enter ..
  have hsize : c₂.roster.size = c.roster.size := hprogress.size.trans (Roster.size_of_outlines_eq hentered)
  have hleft : ∀ k, ((callCheck ask w c).2.roster.outline k).plugin = (c₂.roster.outline k).plugin := by
    intro k
    rw [Roster.outline_of_outlines_eq houtlines, outline_addNeed]
    split_ifs <;> rfl
  refine ⟨chosen, rest, ?_, ?_, fun j hj => ?_⟩
  · rw [Roster.outline_of_outlines_eq houtlines, outline_addNeed, if_pos ⟨rfl, hsize.symm ▸ hw⟩]
    exact List.mem_append_right _ (List.mem_singleton_self _)
  · have hlt : w < (c₂.addNeed w (chosen :: rest)).roster.size := by
      rw [addNeed, Roster.size_modify, hsize]
      exact hw
    rw [hmemory hlt, hleft, WhitePoint.sensor?_set]
  · obtain ⟨hlt, hne, hsensor⟩ := mem_candidates.1 (hmem j hj)
    have hsensor : ((c.entered w).roster.handle j).view.attributes.contains Attribute.sensor := by
      simpa [PluginView.hasAttributes, PluginView.hasAttribute] using hsensor
    refine ⟨?_, hne, ?_⟩
    · rw [Roster.size_of_outlines_eq houtlines, addNeed, Roster.size_modify, hprogress.size]
      exact hlt
    · rw [hleft, hprogress.plugin]
      exact hsensor

/-- The white point stands at a place, and has chosen a sensor once it is accepted. -/
structure Chooses (c : Check) (w : Nat) : Prop where
  lt : w < c.roster.size
  plugin : (c.roster.outline w).plugin = WhitePoint.plugin
  chosen : c.mark w = .accepted → c.roster.HasChosen w

/-- The choice stays if the place and its mark do. -/
theorem Chooses.of_keeps (h : c.Chooses w) (hk : c.roster.Keeps w c'.roster) (hm : c'.mark w = c.mark w) :
    c'.Chooses w where
  lt := hk.size.symm ▸ h.lt
  plugin := (hk.plugin w).trans h.plugin
  chosen ha := (h.chosen (hm.symm.trans ha)).mono hk

/-- Recording a group leaves the choice alone. -/
theorem Chooses.addNeed (h : c.Chooses w) (asker : Nat) (g : List Nat) : (c.addNeed asker g).Chooses w := by
  refine h.of_keeps ⟨Roster.size_modify .., fun k => ?_, fun g' hg' => ?_, ?_⟩ rfl
  · rw [outline_addNeed]
    split_ifs <;> rfl
  · rw [outline_addNeed]
    split_ifs
    · exact List.mem_append_left _ hg'
    · exact hg'
  · rw [Check.addNeed, Roster.handle, Roster.entry_modify]
    split_ifs <;> rfl

/-- A mark is set for one plugin. -/
theorem mark_setMark_of_ne {k : Nat} (m : Mark) (h : k ≠ i) : (c.setMark i m).mark k = c.mark k := by
  rw [mark, mark, setMark, List.getElem?_set_ne (Ne.symm h)]

/-- The marks of others have no part in the choice. -/
theorem Chooses.setMark_of_ne (h : c.Chooses w) (m : Mark) (hi : w ≠ i) : (c.setMark i m).Chooses w :=
  h.of_keeps (.refl w _) (mark_setMark_of_ne m hi)

/-- The check of another plugin leaves the choice alone, if what it asks for does. -/
theorem chooses_callCheck {ask : Nat → Check → Bool × Check}
    (hask : ∀ j (c : Check), c.Chooses w → (ask j c).2.Chooses w) (h : c.Chooses w) (hi : w ≠ i) :
    (callCheck ask i c).2.Chooses w := by
  have hentered : (c.entered i).Chooses w :=
    h.of_keeps (.of_outlines_eq (Roster.outlines_enter ..) (Roster.memory_enter _)) rfl
  have hrun : ((c.program i).run (serve ask i) (c.entered i)).2.Chooses w :=
    Task.run_preserves (P := (Chooses · w))
      (fun q _ hc => serve_preserves hask (fun g _ h => h.addNeed i g)
        (fun _ _ h => h.of_keeps (.of_outlines_eq rfl rfl) rfl) hc q) _ hentered
  obtain ⟨-, hmarks, houtlines⟩ := callCheck_eq ask i c
  refine hrun.of_keeps (.of_outlines_eq houtlines ?_) (by rw [mark, mark, hmarks])
  exact (Roster.memory_leave ..).trans (if_neg fun hw => hi hw.1)

/-- **A check keeps the choice**, and makes it if it is that of the white point.  Checks inside of others are taken
care of by the induction on the depth. -/
theorem chooses_pass (d i : Nat) (h : c.Chooses w) : (pass d i c).2.Chooses w := by
  refine pass_preserves (P := (Chooses · w)) (fun d i c ih h hm result c' heq => ?_) d i h
  by_cases hi : w = i
  · subst hi
    have hlt := lt_length_of_mark_eq_pending hm
    have hprogress := progress_callCheck (c := c.setMark w .inProgress) (i := w) (progress_pass d)
      (by rw [mark_setMark _ hlt, if_pos rfl])
    have hchosen := hasChosen_of_callCheck (c := c.setMark w .inProgress) (progress_pass d) h.plugin h.lt
    rw [heq] at hprogress hchosen
    refine ⟨h.lt.trans_eq hprogress.size.symm, (hprogress.plugin w).trans h.plugin, fun ha => ?_⟩
    have hlt' : w < c'.marks.length := by rw [hprogress.length, setMark, List.length_set]; exact hlt
    rw [mark_setMark _ hlt', if_pos rfl] at ha
    cases result with
    | ok => exact hchosen rfl
    | error e => cases ha
  · have hcheck := chooses_callCheck ih (h.setMark_of_ne .inProgress hi) hi
    rw [heq] at hcheck
    exact hcheck.setMark_of_ne _ hi

/-- The whole walk keeps the choice, and by its end it is made. -/
theorem chooses_askAll (h : c.Chooses w) : c.askAll.Chooses w :=
  List.foldlRecOn (motive := (Chooses · w)) _ _ h fun _ h i _ => chooses_pass _ i h

end Check
end BringUp

namespace Roster

variable {r r' : Roster} {k w : Nat}

/-! ### After bring-up -/

/-- A walk of steps that keep a place keeps it. -/
theorem keeps_foldl {β : Type} {step : Roster → β → Roster}
    (hstep : ∀ r' b, r.Keeps w r' → r'.Keeps w (step r' b)) (bs : List β) : r.Keeps w (bs.foldl step r) :=
  List.foldlRecOn (motive := r.Keeps w) bs step (.refl w r) fun r' h b _ => h.trans (hstep r' b h)

/-- The verdicts leave the white point as it is, but for its state. -/
theorem keeps_finish (c : Check) : c.roster.Keeps w c.finish := by
  refine keeps_foldl (fun r' i _ => ?_) _
  split_ifs
  · exact keeps_move _
  · exact .refl w r'

/-- So does the late phase, since the white point has nothing to do in it. -/
theorem keeps_postCheckDeps (hw : (r.outline w).plugin = WhitePoint.plugin) : r.Keeps w r.postCheckDeps := by
  have hlate : r.Keeps w r.lateChecked := keeps_foldl (fun r' i h => keeps_checkLate ((h.plugin w).trans hw) i) _
  have hsettle : r.lateChecked.Keeps w r.lateChecked.settleLate := by
    refine keeps_foldl (fun r' i _ => ?_) _
    split
    · exact keeps_move _
    · exact .refl w r'
  have hrelease : r.lateChecked.settleLate.Keeps w r.postCheckDeps := by
    refine keeps_foldl (fun r' i _ => ?_) _
    split_ifs
    · exact keeps_move _
    · exact .refl w r'
  exact (hlate.trans hsettle).trans hrelease

/-- After bring-up everyone is runnable or rejected. -/
theorem Supported.runnable_or_isRejected (h : r.Supported) (hk : k < r.size) :
    (r.bringUp.outline k).state = .runnable ∨ (r.bringUp.outline k).state.isRejected := by
  have hk' : k < r.checkDeps.size := r.size_checkDeps.symm ▸ hk
  have hresting := h.checkDeps.resting k hk'
  rcases r.checkDeps.state_postCheckDeps hk' hresting.ne_depsFinalized with ⟨-, ⟨hrun, -⟩ | ⟨hrej, -⟩⟩ | ⟨hne, he, -⟩
  · exact .inl hrun
  · exact .inr hrej
  · rw [bringUp, he]
    rcases hresting with hs | hs | hs | hs
    · exact absurd hs (state_checkDeps_ne_postLoaded hk)
    · exact absurd hs hne
    · exact .inl hs
    · exact .inr hs

/-- Who becomes runnable by the first bring-up was accepted when everyone was asked. -/
theorem Supported.mark_asked_of_runnable (h : r.Supported) (hk : k < r.size)
    (hs : (r.outline k).state = .postLoaded ∨ (r.outline k).state.isRejected)
    (hrun : (r.bringUp.outline k).state = .runnable) : (asked r).mark k = .accepted := by
  have hk' : k < r.checkDeps.size := r.size_checkDeps.symm ▸ hk
  have hne : (r.checkDeps.outline k).state ≠ .runnable := by
    rw [r.state_checkDeps hk]
    split_ifs with hp
    · cases (asked r).settled.mark k <;> exact nofun
    · rintro hr
      rw [hr] at hs
      exact hs.elim nofun nofun
  have hchecked : (r.checkDeps.outline k).state = .depsChecked := by
    by_contra hno
    rcases r.checkDeps.state_postCheckDeps hk' (h.checkDeps.resting k hk').ne_depsFinalized with ⟨hs, -⟩ | ⟨-, he, -⟩
    · exact hno hs
    · exact hne (he.symm.trans hrun)
  rw [r.state_checkDeps hk] at hchecked
  split_ifs at hchecked with hp
  · have hsize : k < (asked r).roster.size := (size_asked r).symm ▸ hk
    exact (exists_accepted_of_settled (length_asked r) hsize (verdict_eq_depsChecked.1 hchecked)).1
  · rw [hchecked] at hs
    exact hs.elim nofun nofun

/-- **A runnable white point has chosen a sensor.**  It was accepted in the walk, where it chose, and nothing after
the walk touches its memory or its groups. -/
theorem Supported.hasChosen_bringUp (h : r.Supported) (hw : w < r.size)
    (hplugin : (r.outline w).plugin = WhitePoint.plugin)
    (hs : (r.outline w).state = .postLoaded ∨ (r.outline w).state.isRejected)
    (hrun : (r.bringUp.outline w).state = .runnable) : r.bringUp.HasChosen w := by
  have hstart : (start r).Chooses w := by
    refine ⟨hw, hplugin, fun ha => ?_⟩
    rw [mark_start hw] at ha
    rcases hs with hs | hs
    · rw [hs] at ha
      exact nomatch ha
    · obtain ⟨stage, reason, hs⟩ := Lifecycle.exists_of_isRejected hs
      rw [hs] at ha
      exact nomatch ha
  have hasked := (chooses_askAll hstart).chosen (h.mark_asked_of_runnable hw hs hrun)
  have hlate : r.checkDeps.Keeps w r.bringUp := keeps_postCheckDeps ((r.plugin_checkDeps hw).trans hplugin)
  exact hasked.mono ((keeps_finish (asked r).settled).trans hlate)

/-! ### The look-up on a run -/

/-- Some plugin of a name is not rejected. -/
def HasLeft (r : Roster) (name : String) : Prop :=
  ∃ j < r.size, (r.handle j).name = name ∧ (r.handle j).state.isRejected = false

/-- The look-up finds a runnable plugin of the name. -/
theorem of_firstRunnable?_eq_some {name : String} (h : r.firstRunnable? name = some k) :
    k < r.size ∧ (r.handle k).name = name ∧ (r.handle k).state = .runnable := by
  have hp := List.find?_some h
  rw [Bool.and_eq_true] at hp
  exact ⟨List.mem_range.1 (List.mem_of_find?_eq_some h), of_decide_eq_true hp.1, of_decide_eq_true hp.2⟩

/-- **Once everyone is runnable or rejected, the look-up finds somebody if any plugin of the name is left.**  It need
not be the one that was found in the check. -/
theorem firstRunnable?_ne_none_iff {name : String}
    (hdone : ∀ k, k < r.size → (r.outline k).state = .runnable ∨ (r.outline k).state.isRejected) :
    r.firstRunnable? name ≠ none ↔ r.HasLeft name := by
  constructor
  · intro hfound
    obtain ⟨j, hj⟩ := Option.ne_none_iff_exists'.1 hfound
    obtain ⟨hlt, hname, hrun⟩ := of_firstRunnable?_eq_some hj
    exact ⟨j, hlt, hname, by rw [hrun]; rfl⟩
  · rintro ⟨k, hk, hname, hleft⟩ hnone
    have hrun : (r.handle k).state = .runnable :=
      (hdone k hk).resolve_right fun hrej => absurd (hrej.symm.trans hleft) (by decide)
    refine List.find?_eq_none.1 hnone k (List.mem_range.2 hk) ?_
    rw [Bool.and_eq_true]
    exact ⟨decide_eq_true hname, decide_eq_true hrun⟩

/-- The look-up is told by the outlines. -/
theorem firstRunnable?_of_outlines_eq (h : r'.outlines = r.outlines) (name : String) :
    r'.firstRunnable? name = r.firstRunnable? name := by
  have hview : ∀ i, (r'.handle i).name = (r.handle i).name ∧ (r'.handle i).state = (r.handle i).state := by
    intro i
    exact ⟨congrArg (·.plugin.name) (outline_of_outlines_eq h i), state_of_outlines_eq h i⟩
  unfold firstRunnable?
  rw [size_of_outlines_eq h]
  refine congrArg (List.find? · _) (funext fun i => ?_)
  rw [PluginView.isRunnable, PluginView.isRunnable, Handle.view, Handle.view, (hview i).1, (hview i).2]

/-- Who asks to measure is answered if the look-up finds somebody. -/
theorem serve_measure_eq_none_iff {run : Run} (h : run.roster.outlines = r.outlines) (members : List Nat)
    (name : String) :
    (Run.serve members true (.other (.measure name)) run).1 = none ↔ r.firstRunnable? name = none := by
  rw [← firstRunnable?_of_outlines_eq h]
  change (run.roster.measureWith name run.isCancelled).1 = none ↔ _
  unfold measureWith
  split
  · next hnone => exact ⟨fun _ => hnone, fun _ => rfl⟩
  · next i hsome =>
    rw [hsome]
    split_ifs <;> exact ⟨nofun, nofun⟩

end Roster

/-- A white point whose question to measure is not answered fails, and does nothing else. -/
theorem WhitePoint.run_unanswered {σ : Type}
    {serve : (q : chainSignature.noting.Request) → σ → chainSignature.noting.Reply q × σ} {s : σ} {name : String}
    (ctx : RunContext) {workspace : Workspace} (hsensor : WhitePoint.sensor? workspace.memory = some name)
    (hserve : (serve (.other (.measure name)) s).1 = none) :
    (((WhitePoint.run ctx).run.run workspace).run serve s).1 =
      (.error (.failed (.missingDependency name)), workspace) := by
  rcases hreply : serve (.other (.measure name)) s with ⟨reply, s'⟩
  rw [hreply] at hserve
  obtain rfl : reply = none := hserve
  exact run_of_reply ctx hsensor hreply

namespace Roster

/-- Everything holds of plugins that were just loaded. -/
theorem supported_loadAll (row : List (Plugin × Origin × Option (Nat × Nat))) : (loadAll row).Supported :=
  List.foldlRecOn (motive := Supported) row _ supported_empty fun _ h p _ => h.add p.1 p.2.1 p.2.2

/-- **What a runnable white point finds.**  It keeps the name of the first member of a group of other plugins with the
attribute of sensors, and some member of the group is runnable.  If any plugin of the name that it kept is left, the
look-up leads to a runnable plugin of that name, a sensor if all plugins of the name are, and every measurement is
answered; if none is left, every run fails for the missing sensor. -/
theorem sensor_of_runnable {row : List (Plugin × Origin × Option (Nat × Nat))} {w : Nat} {origin : Origin}
    {version? : Option (Nat × Nat)} (hw : row[w]? = some (WhitePoint.plugin, origin, version?))
    (hrun : ((loadAll row).bringUp.handle w).state = .runnable) :
    let r := (loadAll row).bringUp
    ∃ chosen rest name, WhitePoint.sensor? (r.handle w).memory = some name ∧ (r.handle chosen).name = name ∧
      (chosen :: rest) ∈ (r.entry w).needs ∧
      (∀ j ∈ chosen :: rest, j < r.size ∧ j ≠ w ∧ (r.handle j).view.hasAttribute Attribute.sensor) ∧
      (∃ j ∈ chosen :: rest, (r.handle j).state = .runnable) ∧
      (r.HasLeft name →
        (∃ j, r.firstRunnable? name = some j ∧ (r.handle j).name = name ∧ (r.handle j).state = .runnable ∧
          ((∀ k < r.size, (r.handle k).name = name → (r.handle k).view.hasAttribute Attribute.sensor) →
            (r.handle j).view.hasAttribute Attribute.sensor)) ∧
        ∀ (run : Run) members, run.roster.outlines = r.outlines →
          (Run.serve members true (.other (.measure name)) run).1 ≠ none) ∧
      (¬ r.HasLeft name → r.firstRunnable? name = none ∧
        ∀ (run : Run) members ctx (workspace : Workspace), run.roster.outlines = r.outlines →
          WhitePoint.sensor? workspace.memory = some name →
            (((WhitePoint.run ctx).run.run workspace).run (Run.serve members true) run).1 =
              (.error (.failed (.missingDependency name)), workspace)) := by
  obtain ⟨hsize, houtline⟩ := outline_loadAll row
  obtain ⟨state, hstate, -, ho⟩ := houtline w _ _ _ hw
  have hloaded := supported_loadAll row
  have hlt : w < (loadAll row).size := hsize ▸ (List.getElem?_eq_some_iff.1 hw).1
  rw [state_handle] at hrun
  have hchosen := hloaded.hasChosen_bringUp hlt (by rw [ho]) (by rw [ho]; exact hstate) hrun
  have hbrought : (loadAll row).bringUp.size = (loadAll row).size := (size_postCheckDeps _).trans (size_checkDeps _)
  have hdone : ∀ k, k < (loadAll row).bringUp.size → _ := fun k hk => hloaded.runnable_or_isRejected (hbrought ▸ hk)
  have hsupported : (loadAll row).bringUp.Supported := hloaded.checkDeps.postCheckDeps
  rw [← hbrought] at hlt
  generalize (loadAll row).bringUp = r at *
  obtain ⟨chosen, rest, hneeds, hsensor, hgroup⟩ := hchosen
  refine ⟨chosen, rest, _, hsensor, rfl, hneeds, hgroup, hsupported.runnable w hlt hrun _ hneeds, ?_, ?_⟩
  · intro hleft
    have hfound := (firstRunnable?_ne_none_iff hdone).2 hleft
    obtain ⟨j, hj⟩ := Option.ne_none_iff_exists'.1 hfound
    obtain ⟨hjlt, hname, hjrun⟩ := of_firstRunnable?_eq_some hj
    refine ⟨⟨j, hj, hname, hjrun, fun hall => hall j hjlt hname⟩, fun run members houtlines hnone => ?_⟩
    exact hfound ((serve_measure_eq_none_iff houtlines members _).1 hnone)
  · intro hleft
    have hnone := not_not.1 fun hfound => hleft ((firstRunnable?_ne_none_iff hdone).1 hfound)
    refine ⟨hnone, fun run members ctx workspace houtlines hmemory => ?_⟩
    exact WhitePoint.run_unanswered ctx hmemory ((serve_measure_eq_none_iff houtlines members _).2 hnone)

/-- A sensor of a name, which looks around once more. -/
def probe (name : String) (lookAround : LocalCode Unit) : Plugin where
  name
  attributes := [Attribute.sensor]
  postCheckDeps _ := lookAround
  sensor? := some SimSensor.measure

/-- Plugins that come with the program, in load order. -/
def desk (plugins : List Plugin) : List (Plugin × Origin × Option (Nat × Nat)) := plugins.map (·, .static, none)

/-- Where the spare sensor gives up late, the white point finds the one that it chose. -/
theorem desk_sensor :
    let r := (loadAll (desk [probe "Meter" (pure ()), probe "Spare" (.fail .cancelled), WhitePoint.plugin])).bringUp
    (r.handle 2).state = .runnable ∧ r.HasLeft "Meter" ∧
      ∃ j, r.firstRunnable? "Meter" = some j ∧ (r.handle j).state = .runnable ∧
        (r.handle j).view.hasAttribute Attribute.sensor := by
  intro r
  have hrun : (r.handle 2).state = .runnable := by decide +kernel
  have hmeter : WhitePoint.sensor? (r.handle 2).memory = some "Meter" ∧
      ∀ k < r.size, (r.handle k).name = "Meter" → (r.handle k).view.hasAttribute Attribute.sensor := by decide +kernel
  have hleft : r.HasLeft "Meter" := ⟨0, by decide +kernel⟩
  obtain ⟨chosen, rest, name, hsensor, -, -, -, -, hfound, -⟩ := sensor_of_runnable (w := 2) rfl hrun
  obtain rfl : name = "Meter" := Option.some.inj (hsensor.symm.trans hmeter.1)
  obtain ⟨⟨j, hj, -, hjrun, hattribute⟩, -⟩ := hfound hleft
  exact ⟨hrun, hleft, j, hj, hjrun, hattribute hmeter.2⟩

/-- **A runnable white point may be left without the sensor that it chose.**  Where the chosen sensor gives up late, the
name that was kept leads nowhere, although another sensor is runnable; and where a plugin that is no sensor has the
same name and comes first, the name leads to that one. -/
theorem spare_out_of_sight :
    let dark := (loadAll (desk
      [probe "Meter" (.fail (.hardware "lamp off")), probe "Spare" (pure ()), WhitePoint.plugin])).bringUp
    let shared := (loadAll (desk
      [{ name := "Meter" }, probe "Meter" (pure ()), WhitePoint.plugin])).bringUp
    ((dark.handle 2).state = .runnable ∧ WhitePoint.sensor? (dark.handle 2).memory = some "Meter" ∧
      dark.firstRunnable? "Meter" = none ∧
      (dark.handle 1).state = .runnable ∧ (dark.handle 1).view.hasAttribute Attribute.sensor) ∧
    ((shared.handle 2).state = .runnable ∧ WhitePoint.sensor? (shared.handle 2).memory = some "Meter" ∧
      shared.firstRunnable? "Meter" = some 0 ∧ (shared.handle 0).view.hasAttribute Attribute.sensor = false) := by
  decide +kernel

end Roster
end Calibration
