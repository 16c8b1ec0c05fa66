/-
# What bring-up sees of a roster

Bring-up reads and changes three things of an entry: the plugin, how far it has come, and the groups that it
needs.  Together they are its outline.  A call of a plugin's code changes memories, last failures and the journal,
but no outline (`outlines_callLocal`); a move changes the state at one place and nothing else (`outline_move`); a
new plugin has tended itself and needs nobody yet (`outline_add`).  The phases of bring-up go through the places
one by one, and each step touches its own place only, so that the outline at a place comes of the one step that is
its own (`foldl_range_outline`).
-/

import Calibration.Roster
import Mathlib.Tactic.SplitIfs

namespace Calibration

/-- A plugin, how far it has come, and the groups that it needs. -/
structure Outline where
  plugin : Plugin
  state : Lifecycle
  needs : List (List Nat)

def Entry.outline (e : Entry) : Outline := ⟨e.handle.plugin, e.handle.state, e.needs⟩

namespace Lifecycle

/-- A rejection has a phase and a reason. -/
theorem exists_of_isRejected {s : Lifecycle} (h : s.isRejected) : ∃ stage reason, s = .rejected stage reason := by
  cases s with
  | rejected stage reason => exact ⟨stage, reason, rfl⟩
  | _ => cases h

end Lifecycle

/-- The value of a program that asks for nothing. -/
def Task.value {α : Type} : Task Signature.none.noting α → α
  | .done a => a
  | .ask (.note _) next => (next ()).value
  | .ask (.other q) _ => nomatch q

/-- The code, begun with a memory, ends well. -/
def LocalCode.succeeds {α : Type} (code : LocalCode α) (memory : Dict) : Bool :=
  (code.run.run memory).value.1.isOk

namespace Handle

/-- A move leaves the handle with the same plugin. -/
theorem plugin_moved (h : Handle) (next : Lifecycle) : (h.moved next).plugin = h.plugin := by
  unfold moved transition
  split_ifs
  · cases next <;> rfl
  · rfl

/-- A move changes the state exactly if the lifecycle allows it. -/
theorem state_moved (h : Handle) (next : Lifecycle) :
    (h.moved next).state = if h.state.canEnter next then next else h.state := by
  unfold moved transition
  split_ifs
  · cases next <;> rfl
  · rfl

end Handle

namespace Roster

variable {α : Type} (r : Roster) (i k : Nat)

/-- The outline at a place. -/
def outline : Outline := (r.entry i).outline

/-- The state of a plugin is the one in its outline. -/
theorem state_handle : (r.handle i).state = (r.outline i).state := rfl

/-- The outlines in load order. -/
def outlines : List Outline := r.entries.map Entry.outline

/-- There are as many outlines as plugins. -/
theorem length_outlines : r.outlines.length = r.size := List.length_map ..

/-- The outline at a place is found in the row of outlines. -/
theorem outline_eq_getD : r.outline i = r.outlines[i]?.getD (default : Entry).outline := by
  rw [outline, entry, outlines, List.getElem?_map]
  cases r.entries[i]? <;> rfl

/-- Where no plugin is the outline is that of no plugin. -/
theorem outline_of_size_le (h : r.size ≤ i) : r.outline i = (default : Entry).outline := by
  rw [outline, entry, List.getElem?_eq_none h]; rfl

/-- A plugin that is not as new has a place. -/
theorem lt_size_of_ne {r : Roster} {i : Nat} (h : (r.handle i).state ≠ .loaded) : i < r.size := by
  refine Nat.lt_of_not_le fun hi => h ?_
  rw [state_handle, outline_of_size_le r i hi]
  rfl

/-- Rosters with the same outlines are of one size. -/
theorem size_of_outlines_eq {r r' : Roster} (h : r'.outlines = r.outlines) : r'.size = r.size := by
  rw [← length_outlines, h, length_outlines]

/-- They have the same outline at each place. -/
theorem outline_of_outlines_eq {r r' : Roster} (h : r'.outlines = r.outlines) (k : Nat) :
    r'.outline k = r.outline k := by
  rw [outline_eq_getD, h, outline_eq_getD]

/-- So the states are the same as well. -/
theorem state_of_outlines_eq {r r' : Roster} (h : r'.outlines = r.outlines) (k : Nat) :
    (r'.handle k).state = (r.handle k).state := by
  rw [state_handle, outline_of_outlines_eq h, state_handle]

@[simp] theorem size_modify (f : Entry → Entry) : (r.modify i f).size = r.size := List.length_modify ..

/-- A change at one place changes the entry there. -/
theorem entry_modify (f : Entry → Entry) :
    (r.modify i f).entry k = if k = i ∧ i < r.size then f (r.entry k) else r.entry k := by
  rw [entry, entry, modify]
  by_cases hk : k = i
  · subst hk
    rw [List.getElem?_modify_eq]
    by_cases hi : k < r.size
    · rw [if_pos ⟨rfl, hi⟩, List.getElem?_eq_getElem hi]
      rfl
    · rw [if_neg fun h => hi h.2, List.getElem?_eq_none (Nat.not_lt.1 hi)]
      rfl
  · rw [if_neg fun h => hk h.1, List.getElem?_modify_ne _ _ (Ne.symm hk)]

/-- A change of one handle changes the handle there. -/
theorem handle_modifyHandle (f : Handle → Handle) :
    (r.modifyHandle i f).handle k = if k = i ∧ i < r.size then f (r.handle k) else r.handle k := by
  rw [handle, modifyHandle, entry_modify]
  split_ifs <;> rfl

/-- A change of an entry that leaves its outline alone leaves all outlines alone. -/
theorem outlines_modify {f : Entry → Entry} (h : ∀ e, (f e).outline = e.outline) :
    (r.modify i f).outlines = r.outlines := by
  refine List.ext_getElem? fun k => ?_
  rw [outlines, outlines, List.getElem?_map, List.getElem?_map, modify, List.getElem?_modify]
  cases r.entries[k]? with
  | none => split_ifs <;> rfl
  | some e => split_ifs <;> simp [h]

/-! ### Calls -/

/-- The begin of a call changes no outline. -/
theorem outlines_enter (step : Step) : (r.enter i step).outlines = r.outlines :=
  outlines_modify r i fun _ => rfl

/-- How a call ends is no part of the outline: what it leaves behind is a message and a memory. -/
theorem outlines_leave (step : Step) (memory : Dict) (result : Except Halt α) :
    (r.leave i step memory result).2.outlines = r.outlines := by
  refine List.ext_getElem? fun k => ?_
  by_cases hk : i = k
  · subst hk
    simp only [leave, outlines, log, modifyHandle, modify, List.getElem?_map, List.getElem?_modify_eq, handle, entry]
    cases result <;> cases r.entries[i]? <;> rfl
  · simp only [leave, outlines, log, modifyHandle, modify, List.getElem?_map, List.getElem?_modify_ne _ _ hk]

/-- **A call changes no outline.**  It writes to the memory, the last failure and the journal, none of which is part
of one. -/
theorem outlines_callLocal (step : Step) (code : LocalCode α) :
    (r.callLocal i step code).2.outlines = r.outlines := by
  have keeps : ∀ (q : Signature.none.noting.Request) (s : Roster), s.outlines = r.outlines →
      (serveLocal q s).2.outlines = r.outlines := by
    rintro (line | q) s h
    · exact h
    · exact nomatch q
  rw [callLocal, outlines_leave]
  exact Task.run_preserves (P := fun s : Roster => s.outlines = r.outlines) keeps _ (outlines_enter r i step)

/-- Code that serves itself comes to its value, whatever the roster: all that it says is noted down. -/
theorem run_serveLocal (t : Task Signature.none.noting α) (r : Roster) : (t.run serveLocal r).1 = t.value := by
  induction t generalizing r with
  | done a => rfl
  | ask q next ih =>
    cases q with
    | note line => exact ih () _
    | other q => exact nomatch q

/-- A call succeeds if its code does, begun with the memory of the plugin. -/
theorem isOk_callLocal (step : Step) (code : LocalCode α) :
    (r.callLocal i step code).1.isOk = code.succeeds (r.handle i).memory := by
  rw [LocalCode.succeeds, ← run_serveLocal _ (r.enter i step)]
  simp only [callLocal, leave]
  cases ((code.run.run (r.handle i).memory).run serveLocal (r.enter i step)).1.1 <;> rfl

/-! ### Moves -/

/-- **A move is a move of the handle at its place**, which stays as it is if the lifecycle does not allow it.  The
groups on record stay in any case. -/
theorem entry_move (next : Lifecycle) :
    (r.move i next).entry k =
      if k = i ∧ i < r.size then { r.entry k with handle := (r.handle k).moved next } else r.entry k := by
  rw [move]
  by_cases hi : (r.handle i).state.canEnter next
  · rw [if_pos hi]
    exact entry_modify ..
  · rw [if_neg hi]
    split_ifs with hk
    · obtain ⟨rfl, -⟩ := hk
      unfold Handle.moved Handle.transition
      rw [if_neg hi]
      rfl
    · rfl

@[simp] theorem size_move (next : Lifecycle) : (r.move i next).size = r.size := by
  unfold move
  split_ifs
  · exact size_modify ..
  · rfl

/-- **A move changes the state at its place**, if the lifecycle allows it, and nothing else.  A place outside the
roster has nothing to be moved. -/
theorem outline_move (next : Lifecycle) (h : i < r.size) :
    (r.move i next).outline k =
      if k = i ∧ (r.outline k).state.canEnter next then { r.outline k with state := next }
      else r.outline k := by
  unfold move
  by_cases hi : (r.handle i).state.canEnter next
  · rw [if_pos hi]
    change (r.modifyHandle i (·.moved next)).outline k = _
    rw [outline, modifyHandle, entry_modify, outline]
    by_cases hk : k = i
    · subst hk
      have hk : (r.entry k).handle.state.canEnter next := hi
      rw [if_pos ⟨rfl, h⟩, if_pos ⟨rfl, hk⟩]
      simp only [Entry.outline, Handle.plugin_moved, Handle.state_moved, if_pos hk]
    · rw [if_neg fun h => hk h.1, if_neg fun h => hk h.1]
  · rw [if_neg hi, if_neg]
    rintro ⟨rfl, hk⟩
    exact hi hk

/-- A move of another plugin leaves an outline as it is. -/
theorem outline_move_of_ne (next : Lifecycle) (h : k ≠ i) : (r.move i next).outline k = r.outline k := by
  unfold move
  split_ifs
  · rw [outline, outline, entry, entry, log, modifyHandle, modify, List.getElem?_modify_ne _ _ (Ne.symm h)]
  · rfl

/-- A move that the lifecycle allows. -/
theorem outline_move_self {next : Lifecycle} (h : i < r.size) (hs : (r.outline i).state.canEnter next) :
    (r.move i next).outline i = { r.outline i with state := next } := by
  rw [outline_move r i i next h, if_pos ⟨rfl, hs⟩]

/-! ### Walks through all places -/

/-- **A walk in which each step touches its own place.**  What is seen at a place is what its own step leaves, begun
with what was there at first. -/
theorem foldl_range_view {β : Type} {view : Roster → Nat → β} {step : Roster → Nat → Roster}
    (hsize : ∀ r i, (step r i).size = r.size) (hother : ∀ r i k, k ≠ i → view (step r i) k = view r k) (n : Nat) :
    ((List.range n).foldl step r).size = r.size ∧
      (∀ k, n ≤ k → view ((List.range n).foldl step r) k = view r k) ∧
        ∀ k, k < n → ∃ r', r'.size = r.size ∧ view r' k = view r k ∧
          view ((List.range n).foldl step r) k = view (step r' k) k := by
  induction n with
  | zero => exact ⟨rfl, fun _ _ => rfl, fun k hk => absurd hk (Nat.not_lt_zero k)⟩
  | succ n ih =>
    obtain ⟨hs, hlater, hdone⟩ := ih
    rw [List.range_succ, List.foldl_append, List.foldl_cons, List.foldl_nil]
    refine ⟨(hsize _ _).trans hs, fun k hk => ?_, fun k hk => ?_⟩
    · rw [hother _ _ _ (by omega)]
      exact hlater k (by omega)
    · rcases Nat.lt_succ_iff_lt_or_eq.1 hk with h | rfl
      · obtain ⟨r', h₁, h₂, h₃⟩ := hdone k h
        exact ⟨r', h₁, h₂, by rw [hother _ _ _ (by omega), h₃]⟩
      · exact ⟨_, hs, hlater k (Nat.le_refl k), rfl⟩

/-- The outline at a place is the one that its own step leaves. -/
theorem foldl_range_outline {step : Roster → Nat → Roster} (hsize : ∀ r i, (step r i).size = r.size)
    (hother : ∀ r i k, k ≠ i → (step r i).outline k = r.outline k) (n : Nat) :
    ((List.range n).foldl step r).size = r.size ∧
      (∀ k, n ≤ k → ((List.range n).foldl step r).outline k = r.outline k) ∧
        ∀ k, k < n → ∃ r', r'.size = r.size ∧ r'.outline k = r.outline k ∧
          ((List.range n).foldl step r).outline k = (step r' k).outline k :=
  foldl_range_view r hsize hother n

/-- A walk that moves every plugin in one state to a state of its own. -/
theorem foldl_range_move (s : Lifecycle) (next : Nat → Lifecycle) (hs : ∀ i, s.canEnter (next i)) (r : Roster) :
    let moved := (List.range r.size).foldl
      (fun r i => if (r.handle i).state = s then r.move i (next i) else r) r
    moved.size = r.size ∧ ∀ k, k < r.size → moved.outline k =
      if (r.outline k).state = s then { r.outline k with state := next k } else r.outline k := by
  have hsize : ∀ (r : Roster) i, (if (r.handle i).state = s then r.move i (next i) else r).size = r.size := by
    intro r i
    split_ifs
    · exact size_move ..
    · rfl
  have hother : ∀ (r : Roster) i k, k ≠ i →
      (if (r.handle i).state = s then r.move i (next i) else r).outline k = r.outline k := by
    intro r i k hk
    split_ifs
    · exact outline_move_of_ne r i k _ hk
    · rfl
  obtain ⟨h₁, -, h₂⟩ := foldl_range_outline r hsize hother r.size
  refine ⟨h₁, fun k hk => ?_⟩
  obtain ⟨r', hr, ho, he⟩ := h₂ k hk
  rw [he, ← ho]
  change (if (r'.outline k).state = s then r'.move k (next k) else r').outline k = _
  split_ifs with h
  · exact outline_move_self r' k (hr ▸ hk) (h ▸ hs k)
  · rfl

/-! ### New plugins -/

/-- A new entry comes behind the others. -/
theorem entry_append (e : Entry) :
    ({ r with entries := r.entries ++ [e] } : Roster).entry k = if k = r.size then e else r.entry k := by
  rw [entry, entry, size]
  rcases Nat.lt_trichotomy k r.entries.length with h | h | h
  · rw [if_neg (by omega), List.getElem?_append_left h]
  · rw [if_pos h, h, List.getElem?_append_right (Nat.le_refl _), Nat.sub_self]
    rfl
  · rw [if_neg (by omega), List.getElem?_eq_none (by rw [List.length_append, List.length_singleton]; omega),
      List.getElem?_eq_none (by omega)]

/-- So does its outline. -/
theorem outline_append (e : Entry) :
    ({ r with entries := r.entries ++ [e] } : Roster).outline k =
      if k = r.size then e.outline else r.outline k := by
  rw [outline, outline, entry_append]
  split_ifs <;> rfl

/-- Loading adds one plugin, however its code ends. -/
theorem size_add (plugin : Plugin) (origin : Origin) (version? : Option (Nat × Nat)) :
    (r.add plugin origin version?).size = r.size + 1 := by
  have hs : ∀ code : LocalCode Unit, ((({ r with entries := r.entries ++
      [{ handle := .ofPlugin plugin, origin, version? : Entry }] } : Roster).callLocal r.size
        (.bringUp .postLoad) code).2).size = r.size + 1 := fun code => by
    rw [size_of_outlines_eq (outlines_callLocal ..), size, List.length_append]
    rfl
  rw [add]
  split <;> next heq => rw [size_move, ← hs plugin.postLoad, heq]

/-- **A new plugin comes last.**  It has tended itself or is rejected, as its code ends, and needs nobody yet.  The
outlines before it are as they were. -/
theorem outline_add (plugin : Plugin) (origin : Origin) (version? : Option (Nat × Nat)) :
    ∃ state : Lifecycle, (state = .postLoaded ∨ state.isRejected) ∧
      (state = .postLoaded ↔ plugin.postLoad.succeeds plugin.memory) ∧
      ∀ k, (r.add plugin origin version?).outline k = if k = r.size then ⟨plugin, state, []⟩ else r.outline k := by
  let r₀ : Roster := { r with entries := r.entries ++ [{ handle := .ofPlugin plugin, origin, version? }] }
  have hsize : r₀.size = r.size + 1 := by rw [size, List.length_append]; rfl
  have hnew : r₀.entry r.size = { handle := .ofPlugin plugin, origin, version? } := by
    rw [entry, size, List.getElem?_append_right (Nat.le_refl _), Nat.sub_self]; rfl
  have hok := isOk_callLocal r₀ r.size (.bringUp .postLoad) plugin.postLoad
  rw [handle, hnew] at hok
  -- A move of the new plugin out of `loaded` is always allowed.
  have hmove : ∀ (r' : Roster) (next : Lifecycle), r'.outlines = r₀.outlines → Lifecycle.loaded.canEnter next →
      ∀ k, (r'.move r.size next).outline k = if k = r.size then ⟨plugin, next, []⟩ else r.outline k := by
    intro r' next h hn k
    have hk := outline_of_outlines_eq h k
    rw [outline_append] at hk
    rw [outline_move r' _ _ _ (by rw [size_of_outlines_eq h, hsize]; omega), hk]
    by_cases hks : k = r.size
    · rw [if_pos hks, if_pos hks, if_pos ⟨hks, hn⟩]; rfl
    · rw [if_neg hks, if_neg hks, if_neg fun h => hks h.1]
  have hcall := outlines_callLocal r₀ r.size (.bringUp .postLoad) plugin.postLoad
  rw [add]
  split
  · next a r' heq =>
    rw [show r₀.callLocal .. = _ from heq] at hok hcall
    exact ⟨.postLoaded, .inl rfl, ⟨fun _ => hok.symm, fun _ => rfl⟩, hmove r' _ hcall rfl⟩
  · next e r' heq =>
    rw [show r₀.callLocal .. = _ from heq] at hok hcall
    refine ⟨.rejected .postLoad e.message, .inr rfl, ⟨nofun, fun h => ?_⟩, hmove r' _ hcall rfl⟩
    exact absurd (hok.trans h) Bool.false_ne_true

end Roster
end Calibration
