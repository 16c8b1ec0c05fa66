/-
# The dependency checks without a mishap

A roster is taken apart into the arrays of a registry (`Roster.handles`, `Roster.requirements`), and a check of it into
those of a walk (`Check.apart`).  On the arrays of a check, the checked walk comes to what the walk comes to: as long as
marks and plugins are as many, and the depth covers the plugins not asked yet, each access is in range and no check goes
too deep (`Sized`).  This is shown for one reply, one call and one check, by induction on the depth, and then for the
walk through all plugins (`askAll_apart`).
-/

import Calibration.Proofs.BringUp.Recursion
import Calibration.Proofs.Guarded.Registry

namespace Calibration

open Guarded (Checked lookUp update)

namespace Guarded

variable {α β : Type} {l : List α} {i : Nat} {a b : α}

/-- What comes after a step without a mishap. -/
theorem bind_of_ok {x : Checked α} (h : x = .ok a) (f : α → Checked β) : x >>= f = f a := by
  rw [h]
  rfl

/-- An access in range has no mishap. -/
theorem lookUp_ok (h : l[i]? = some a) : lookUp l i = .ok a := by
  rw [lookUp, h]

/-- Nor has a change in range, if the new element comes without one. -/
theorem update_ok {f : α → Checked α} (h : l[i]? = some a) (hf : f a = .ok b) : update l i f = .ok (l.set i b) := by
  rw [update, bind_of_ok (lookUp_ok h), bind_of_ok hf]
  rfl

/-- A change in range by a function that knows no mishap. -/
theorem update_pure (h : l[i]? = some a) (f : α → α) : update l i (fun a => .ok (f a)) = .ok (l.set i (f a)) :=
  update_ok h rfl

/-- A row of steps without a mishap, each by itself. -/
theorem mapM_ok {f : α → Checked β} {g : α → β} (h : ∀ a ∈ l, f a = .ok (g a)) : l.mapM f = .ok (l.map g) := by
  induction l with
  | nil => rfl
  | cons a l ih =>
    obtain ⟨ha, hl⟩ := List.forall_mem_cons.1 h
    rw [List.mapM_cons, bind_of_ok ha, bind_of_ok (ih hl)]
    rfl

/-- A loop over places without a mishap: what holds before each step is enough for the step, and holds after it. -/
theorem foldlM_ok {σ τ : Type} {f : σ → Nat → σ} {f' : τ → Nat → Checked τ} {F : σ → τ} {P : Nat → σ → Prop} {s : σ}
    {n : Nat} (h : P 0 s) (hstep : ∀ i < n, ∀ s, P i s → f' (F s) i = .ok (F (f s i)) ∧ P (i + 1) (f s i)) :
    (List.range n).foldlM f' (F s) = .ok (F ((List.range n).foldl f s)) ∧ P n ((List.range n).foldl f s) := by
  induction n with
  | zero => exact ⟨rfl, h⟩
  | succ n ih =>
    obtain ⟨heq, hP⟩ := ih fun i hi => hstep i (Nat.lt_succ_of_lt hi)
    obtain ⟨hlast, hP'⟩ := hstep n (Nat.lt_succ_self n) _ hP
    rw [List.range_succ, List.foldlM_append, bind_of_ok heq, List.foldl_append, List.foldlM_cons, bind_of_ok hlast]
    exact ⟨rfl, hP'⟩

/-- A step of the lifecycle that is allowed. -/
theorem advance_ok {h : Handle} {next : Lifecycle} (hs : h.state.canEnter next) :
    advance h next = .ok (h.moved next) := by
  unfold advance Handle.moved Handle.transition
  rw [if_pos hs]

end Guarded

/-! ### The arrays of a roster -/

namespace Roster

variable {r : Roster} {i : Nat}

/-- The handles of the plugins. -/
def handles (r : Roster) : List Handle := r.entries.map (·.handle)

/-- The groups that the plugins need. -/
def requirements (r : Roster) : List (List (List Nat)) := r.entries.map (·.needs)

/-- There are as many handles as plugins. -/
theorem length_handles : r.handles.length = r.size := List.length_map ..

/-- There are as many places for groups as plugins. -/
theorem length_requirements : r.requirements.length = r.size := List.length_map ..

/-- The handle of a plugin stands at its place. -/
theorem handles_getElem? (h : i < r.size) : r.handles[i]? = some (r.handle i) := by
  rw [handles, List.getElem?_map, handle, entry, List.getElem?_eq_getElem h]
  rfl

/-- The groups of a plugin stand at its place. -/
theorem requirements_getElem? (h : i < r.size) : r.requirements[i]? = some (r.entry i).needs := by
  rw [requirements, List.getElem?_map, entry, List.getElem?_eq_getElem h]
  rfl

/-- A changed entry is a changed handle. -/
theorem handles_modify (r : Roster) (i : Nat) (f : Entry → Entry) :
    (r.modify i f).handles = r.handles.set i (f (r.entry i)).handle := by
  rw [handles, modify, List.modify_eq_set, List.map_set]
  rfl

/-- A handle that is written where it stands changes nothing. -/
theorem handles_set (h : i < r.size) : r.handles.set i (r.handle i) = r.handles := by
  obtain ⟨h', he⟩ := List.getElem?_eq_some_iff.1 (handles_getElem? h)
  rw [← he, List.set_getElem_self]

/-- Nor do groups that are written where they stand. -/
theorem requirements_set (h : i < r.size) : r.requirements.set i (r.entry i).needs = r.requirements := by
  obtain ⟨h', he⟩ := List.getElem?_eq_some_iff.1 (requirements_getElem? h)
  rw [← he, List.set_getElem_self]

/-- A changed entry is a changed row of groups. -/
theorem requirements_modify (r : Roster) (i : Nat) (f : Entry → Entry) :
    (r.modify i f).requirements = r.requirements.set i (f (r.entry i)).needs := by
  rw [requirements, modify, List.modify_eq_set, List.map_set]
  rfl

end Roster

namespace BringUp
namespace Check

open Guarded (Walk bind_of_ok lookUp_ok update_pure mapM_ok foldlM_ok)

/-- The arrays of a check. -/
def apart (c : Check) : Walk := ⟨c.roster.handles, c.marks, c.roster.requirements⟩

/-- There are `n` plugins and as many marks, and no more than `d` plugins were not asked yet. -/
structure Sized (n d : Nat) (c : Check) : Prop where
  size : c.roster.size = n
  length : c.marks.length = n
  depth : c.pendingCount ≤ d

variable {n d i asker : Nat} {c c' : Check}

namespace Sized

/-- The size of a check is told by its marks and outlines. -/
theorem of_outlines_eq (h : c.Sized n d) (hm : c'.marks = c.marks) (ho : c'.roster.outlines = c.roster.outlines) :
    c'.Sized n d where
  size := (Roster.size_of_outlines_eq ho).trans h.size
  length := hm ▸ h.length
  depth := by rw [pendingCount, hm]; exact h.depth

/-- Recording a group leaves the size of a check as it is. -/
theorem addNeed (h : c.Sized n d) (asker : Nat) (g : List Nat) : (c.addNeed asker g).Sized n d :=
  ⟨(Roster.size_modify ..).trans h.size, h.length, h.depth⟩

/-- The mark of a plugin stands at its place. -/
theorem marks? (h : c.Sized n d) (hi : i < n) : c.apart.marks[i]? = some (c.mark i) := by
  rw [mark, apart, List.getElem?_eq_getElem (h.length ▸ hi)]
  rfl

/-- The handle of a plugin stands at its place in the walk. -/
theorem handles? (h : c.Sized n d) (hi : i < n) : c.apart.handles[i]? = some (c.roster.handle i) :=
  Roster.handles_getElem? (h.size ▸ hi)

/-- The groups of a plugin stand at its place in the walk. -/
theorem requires? (h : c.Sized n d) (hi : i < n) : c.apart.requires[i]? = some (c.roster.entry i).needs :=
  Roster.requirements_getElem? (h.size ▸ hi)

/-- A bound on the plugins that were not asked yet may be taken larger. -/
theorem mono {d' : Nat} (h : c.Sized n d) (hd : d ≤ d') : c.Sized n d' := { h with depth := Nat.le_trans h.depth hd }

/-- A mark that is not the first one leaves no more plugins that were not asked yet. -/
theorem setMark (h : c.Sized n d) (i : Nat) {m : Mark} (hm : m ≠ .pending) : (c.setMark i m).Sized n d :=
  ⟨h.size, (List.length_set ..).trans h.length, Nat.le_trans (pendingCount_setMark_le hm) h.depth⟩

end Sized

/-! ### Replies -/

/-- Both walks have the same candidates. -/
theorem candidates_apart (c : Check) (asker : Nat) (property : PluginView → Bool) :
    c.apart.candidates asker property = c.candidates asker property := by
  rw [Walk.candidates, candidates, apart, Roster.length_handles]
  refine List.filter_congr fun j hj => ?_
  rw [Roster.handles_getElem? (List.mem_range.1 hj)]
  rfl

/-- A group is recorded without a mishap, for a plugin that is there. -/
theorem record_apart (h : c.Sized n d) (hi : asker < n) (g : List Nat) :
    c.apart.record asker g = .ok (c.addNeed asker g).apart := by
  have hhandles : (c.addNeed asker g).roster.handles = c.roster.handles :=
    (Roster.handles_modify ..).trans (Roster.handles_set (h.size ▸ hi))
  have hneeds := c.roster.requirements_modify asker fun e => { e with needs := e.needs ++ [g] }
  rw [Walk.record, bind_of_ok (update_pure (h.requires? hi) (· ++ [g])), apart, apart, hhandles, addNeed, hneeds]
  rfl

/-- Recording a group changes no handle. -/
theorem handle_addNeed (c : Check) (asker : Nat) (g : List Nat) (j : Nat) :
    (c.addNeed asker g).roster.handle j = c.roster.handle j := by
  rw [addNeed, Roster.handle, Roster.entry_modify]
  split_ifs <;> rfl

/-- A handle is changed without a mishap. -/
theorem setHandle_apart (h : c.Sized n d) (hi : i < n) (f : Handle → Handle) :
    c.apart.setHandle i f = .ok { c with roster := c.roster.modifyHandle i f : Check }.apart := by
  have hneeds : (c.roster.modifyHandle i f).requirements = c.roster.requirements :=
    (Roster.requirements_modify ..).trans (Roster.requirements_set (h.size ▸ hi))
  rw [Walk.setHandle, bind_of_ok (update_pure (h.handles? hi) f), apart, apart, hneeds, Roster.modifyHandle,
    Roster.handles_modify]
  rfl

/-- A mark is set without a mishap. -/
theorem setMark_apart (h : c.Sized n d) (hi : i < n) (m : Mark) : c.apart.setMark i m = .ok (c.setMark i m).apart :=
  bind_of_ok (update_pure (h.marks? hi) fun _ => m) _

/-- What a checked walk comes to: what the walk comes to, on the arrays, and the check is as large as before. -/
structure ComesTo {α : Type} (n d : Nat) (x : Checked (α × Walk)) (result : α × Check) : Prop where
  eq : x = .ok (result.1, result.2.apart)
  sized : result.2.Sized n d

/-- **A checked walk in two parts** comes to what its parts come to.  This is how mishaps are ruled out part by part.
-/
theorem ComesTo.bind {α β : Type} {d' : Nat} {x : Checked (α × Walk)} {f : α × Walk → Checked (β × Walk)}
    {result : α × Check} {result' : β × Check} (h : ComesTo n d x result)
    (hf : ComesTo n d' (f (result.1, result.2.apart)) result') : ComesTo n d' (x >>= f) result' :=
  ⟨(bind_of_ok h.eq f).trans hf.eq, hf.sized⟩

/-- A check ends with a mark, and may go one step deeper than the checks that it asked for. -/
theorem comesTo_setMark (h : c.Sized n d) (hi : i < n) (passed : Bool) {m : Mark} (hm : m ≠ .pending) :
    ComesTo n (d + 1) (return (passed, ← c.apart.setMark i m)) (passed, c.setMark i m) :=
  ⟨bind_of_ok (setMark_apart h hi m) _, (h.setMark i hm).mono (Nat.le_succ d)⟩

section Replies

variable {ask : Nat → Check → Bool × Check} {ask' : Nat → Walk → Checked (Bool × Walk)}
  (hask : ∀ j < n, ∀ c : Check, c.Sized n d → ComesTo n d (ask' j c.apart) (ask j c))
include hask

/-- The first that passes, looked for without a mishap, is a place of the roster. -/
theorem comesTo_firstPassing {js : List Nat} (hjs : ∀ j ∈ js, j < n) (h : c.Sized n d) :
    ComesTo n d (Walk.firstPassing ask' js c.apart) (firstPassing ask js c) ∧
      ∀ j, (firstPassing ask js c).1 = some j → j < n := by
  induction js generalizing c with
  | nil => exact ⟨⟨rfl, h⟩, nofun⟩
  | cons j js ih =>
    obtain ⟨hj, hjs⟩ := List.forall_mem_cons.1 hjs
    obtain ⟨heq, hc⟩ := hask j hj c h
    rw [Walk.firstPassing, firstPassing, heq]
    rcases hresult : ask j c with ⟨_ | _, c'⟩ <;> rw [hresult] at hc
    · exact ih hjs hc
    · exact ⟨⟨rfl, hc⟩, fun k hk => Option.some.inj hk ▸ hj⟩

/-- So are all that pass. -/
theorem comesTo_allPassing {js : List Nat} (hjs : ∀ j ∈ js, j < n) (h : c.Sized n d) :
    ComesTo n d (Walk.allPassing ask' js c.apart) (allPassing ask js c) ∧ ∀ j ∈ (allPassing ask js c).1, j < n := by
  induction js generalizing c with
  | nil => exact ⟨⟨rfl, h⟩, nofun⟩
  | cons j js ih =>
    obtain ⟨hj, hjs⟩ := List.forall_mem_cons.1 hjs
    obtain ⟨heq, hc⟩ := hask j hj c h
    obtain ⟨⟨heq', hc'⟩, hmem⟩ := ih hjs hc
    refine ⟨⟨?_, hc'⟩, fun k hk => ?_⟩
    · rw [Walk.allPassing, heq]
      change Walk.allPassing ask' js (ask j c).2.apart >>= _ = _
      rw [heq']
      rfl
    · simp only [allPassing] at hk
      split_ifs at hk
      · exact (List.mem_cons.1 hk).elim (fun h => h ▸ hj) (hmem k)
      · exact hmem k hk

/-- **A reply without a mishap**: candidates are places of the roster, and so is whoever passes.  The group goes to
the place of the plugin that asks, which is there. -/
theorem comesTo_serve (hi : asker < n) (q : needSignature.noting.Request) (h : c.Sized n d) :
    ComesTo n d (Walk.serve ask' asker q c.apart) (serve ask asker q c) := by
  have hlt (property : PluginView → Bool) : ∀ j ∈ c.candidates asker property, j < n := fun j hj =>
    h.size ▸ (mem_candidates.1 hj).1
  rcases q with line | name | attributes
  · exact ⟨rfl, h.of_outlines_eq rfl rfl⟩
  · obtain ⟨⟨heq, hc⟩, hj⟩ := comesTo_firstPassing hask (hlt fun p => p.name = name) h
    rw [Walk.serve, candidates_apart, bind_of_ok heq, serve]
    rcases hresult : firstPassing ask (c.candidates asker fun p => p.name = name) c with ⟨_ | j, c'⟩ <;>
      rw [hresult] at hc hj
    · exact ⟨rfl, hc⟩
    · have hadded : (c'.addNeed asker [j]).Sized n d := hc.addNeed asker [j]
      have hview := lookUp_ok (hadded.handles? (hj j rfl))
      rw [handle_addNeed] at hview
      exact ⟨(bind_of_ok (record_apart hc hi [j]) _).trans (bind_of_ok hview _), hadded⟩
  · obtain ⟨⟨heq, hc⟩, hj⟩ := comesTo_allPassing hask (hlt (·.hasAttributes attributes)) h
    rw [Walk.serve, candidates_apart, bind_of_ok heq, serve]
    rcases hresult : allPassing ask (c.candidates asker (·.hasAttributes attributes)) c with ⟨group, c'⟩
    rw [hresult] at hc hj
    dsimp only
    cases hempty : group.isEmpty with
    | true => exact ⟨rfl, hc⟩
    | false =>
      have hviews : (group.mapM fun j => return (← lookUp c'.apart.handles j).view) =
          (.ok (group.map fun j => (c'.roster.handle j).view) : Checked _) :=
        mapM_ok fun j hg => bind_of_ok (lookUp_ok (Sized.handles? hc (hj j hg))) _
      exact ⟨(bind_of_ok hviews _).trans (bind_of_ok (record_apart hc hi group) _), hc.addNeed asker group⟩

/-! ### Checks -/

/-- **A program without a mishap**, by its replies.  What the program makes of them does not matter. -/
theorem comesTo_run {α : Type} (hi : asker < n) (t : Task needSignature.noting α) (h : c.Sized n d) :
    ComesTo n d (t.tryRun (Walk.serve ask' asker) c.apart) (t.run (serve ask asker) c) := by
  induction t generalizing c with
  | done value => exact ⟨rfl, h⟩
  | ask q next ih =>
    have hserved := comesTo_serve hask hi q h
    exact hserved.bind (ih (serve ask asker q c).1 hserved.sized)

/-- A call without a mishap: the plugin that is called has a handle. -/
theorem comesTo_callCheck (hi : i < n) (h : c.Sized n d) :
    ComesTo n d (Walk.callCheck ask' i c.apart) (callCheck ask i c) := by
  have hentered : (c.entered i).Sized n d := h.of_outlines_eq rfl (Roster.outlines_enter ..)
  obtain ⟨heq, hc⟩ := comesTo_run hask hi (c.program i) hentered
  have hviews : c.apart.handles.map (·.view) = c.roster.views := List.map_map
  rw [Walk.callCheck, bind_of_ok (lookUp_ok (h.handles? hi)), hviews]
  refine ⟨(bind_of_ok (setHandle_apart h hi Handle.enter) _).trans ((bind_of_ok heq _).trans
    ((bind_of_ok (lookUp_ok (hc.handles? hi)) _).trans ((bind_of_ok (setHandle_apart hc hi _) _).trans ?_))), ?_⟩
  · rfl
  · exact hc.of_outlines_eq rfl (Roster.outlines_leave ..)

end Replies

/-- **A check without a mishap**: it goes as deep as it has to, since each check inside of another finds one plugin
less that was not asked yet. -/
theorem comesTo_pass (hi : i < n) (h : c.Sized n d) : ComesTo n d (Walk.pass d i c.apart) (pass d i c) := by
  induction d generalizing i c with
  | zero =>
    rw [Walk.pass, bind_of_ok (lookUp_ok (h.marks? hi)), pass]
    cases hm : c.mark i with
    | pending => exact absurd (pendingCount_pos hm) (Nat.not_lt.2 h.depth)
    | _ => exact ⟨rfl, h⟩
  | succ d ih =>
    rw [Walk.pass, bind_of_ok (lookUp_ok (h.marks? hi)), pass]
    cases hm : c.mark i with
    | pending =>
      -- The plugin is not pending any more when its code asks for others, so that they may go one step less deep.
      have hcount := pendingCount_setMark_inProgress hm
      have hdepth := h.depth
      have hbegun : (c.setMark i .inProgress).Sized n d :=
        ⟨h.size, (List.length_set ..).trans h.length, by omega⟩
      have hcalled := comesTo_callCheck (fun j hj c h => ih hj h) hi hbegun
      change ComesTo n (d + 1) (c.apart.setMark i .inProgress >>= _) _
      rw [bind_of_ok (setMark_apart h hi .inProgress)]
      rcases hresult : callCheck (pass d) i (c.setMark i .inProgress) with ⟨_ | _, c'⟩ <;> rw [hresult] at hcalled
      · exact hcalled.bind (comesTo_setMark hcalled.sized hi false nofun)
      · exact hcalled.bind (comesTo_setMark hcalled.sized hi true nofun)
    | _ => exact ⟨rfl, h⟩

/-- **All checks without a mishap**: the depth that the walk allows covers all plugins that were not asked yet.  Each
nested check begins with one of them less. -/
theorem askAll_apart (h : c.Sized n d) : c.apart.askAll = .ok c.askAll.apart ∧ c.askAll.Sized n d := by
  have hlength : c.apart.handles.length = n := Roster.length_handles.trans h.size
  rw [Walk.askAll, askAll, hlength, h.size]
  refine foldlM_ok (P := fun _ => Sized n d) h fun i hi c h => ?_
  have hown : c.Sized n c.pendingCount := { h with depth := Nat.le_refl _ }
  obtain ⟨heq, hc⟩ := comesTo_pass hi hown
  exact ⟨bind_of_ok heq _, hc.mono h.depth⟩

end Check
end BringUp
end Calibration
