/-
# How a dependency check goes on

Checks ask for other checks, so that one check runs inside another.  `Progress` says all that may have happened
from one moment of the walk to a later one: plugins and states are as they were, a plugin that was not asked yet
may have been decided, no other mark has changed, and groups were recorded, each with members, only for plugins
that are not decided yet.  It is a preorder, and every part of the walk makes progress: one reply
(`progress_serve`), one check (`progress_pass`), the whole walk (`progress_askAll`).  The number of plugins not
asked yet bounds the depth of the walk, so that every plugin is decided in the end (`isDecided_askAll`).
-/

import Calibration.BringUp.Check
import Calibration.Proofs.Roster.Outline
import Mathlib.Logic.Basic

namespace Calibration
namespace BringUp

/-- The check of the plugin is over. -/
def Mark.isDecided : Mark → Bool
  | .accepted | .rejected _ => true
  | .pending | .inProgress => false

/-- The check of the plugin failed. -/
def Mark.isRejected : Mark → Bool
  | .rejected _ => true
  | _ => false

/-- Who is rejected is decided. -/
theorem Mark.isDecided_of_isRejected {m : Mark} (h : m.isRejected) : m.isDecided := by
  cases m with
  | rejected reason => rfl
  | _ => cases h

namespace Check

/-- What may have happened from a moment of the walk to a later one. -/
structure Progress (c c' : Check) : Prop where
  size : c'.roster.size = c.roster.size
  length : c'.marks.length = c.marks.length
  plugin : ∀ k, (c'.roster.outline k).plugin = (c.roster.outline k).plugin
  state : ∀ k, (c'.roster.outline k).state = (c.roster.outline k).state
  mark : ∀ k, c'.mark k = c.mark k ∨ c.mark k = .pending ∧ (c'.mark k).isDecided
  needs : ∀ k, ∃ new, (c'.roster.outline k).needs = (c.roster.outline k).needs ++ new ∧
    ((c.mark k).isDecided → new = []) ∧ ∀ g ∈ new, g ≠ [] ∧ ∀ j ∈ g, j < c.roster.size

variable {c c' c'' : Check} {i k : Nat}

namespace Progress

/-- **Nothing has happened** if the marks and the outlines are the same: what is logged or locked does not count.
Most of what plugins do in their own calls is of this kind. -/
theorem of_outlines_eq (hm : c'.marks = c.marks) (ho : c'.roster.outlines = c.roster.outlines) : c.Progress c' where
  size := Roster.size_of_outlines_eq ho
  length := congrArg _ hm
  plugin k := congrArg _ (Roster.outline_of_outlines_eq ho k)
  state k := congrArg _ (Roster.outline_of_outlines_eq ho k)
  mark k := .inl (by rw [Check.mark, Check.mark, hm])
  needs k := ⟨[], by rw [Roster.outline_of_outlines_eq ho, List.append_nil], fun _ => rfl, nofun⟩

/-- At the same moment nothing has happened. -/
theorem refl (c : Check) : c.Progress c := of_outlines_eq rfl rfl

/-- A mark that is decided stays. -/
theorem mark_of_isDecided (h : c.Progress c') (hk : (c.mark k).isDecided) : c'.mark k = c.mark k := by
  rcases h.mark k with h | ⟨h, -⟩
  · exact h
  · exact absurd (h ▸ hk) (by decide)

/-- Who is being asked is still being asked later, inside its own check. -/
theorem mark_of_inProgress (h : c.Progress c') (hk : c.mark k = .inProgress) : c'.mark k = .inProgress := by
  rcases h.mark k with h | ⟨h, -⟩
  · exact h.trans hk
  · exact absurd (hk.symm.trans h) (by decide)

/-- **Progress on progress is progress.**  Groups recorded later stand behind those recorded earlier, and who is
decided in the middle keeps both its mark and its groups. -/
theorem trans (h : c.Progress c') (h' : c'.Progress c'') : c.Progress c'' where
  size := h'.size.trans h.size
  length := h'.length.trans h.length
  plugin k := (h'.plugin k).trans (h.plugin k)
  state k := (h'.state k).trans (h.state k)
  mark k := by
    rcases h.mark k with h₁ | ⟨h₁, hd⟩
    · exact h₁ ▸ h'.mark k
    · exact .inr ⟨h₁, h'.mark_of_isDecided hd ▸ hd⟩
  needs k := by
    obtain ⟨new, hn, hd, hg⟩ := h.needs k
    obtain ⟨new', hn', hd', hg'⟩ := h'.needs k
    refine ⟨new ++ new', by rw [hn', hn, List.append_assoc], fun hk => ?_, fun g hm => ?_⟩
    · rw [hd hk, hd' (h.mark_of_isDecided hk ▸ hk)]; rfl
    · exact (List.mem_append.1 hm).elim (hg g) fun hm => h.size ▸ hg' g hm

/-- Of a decided plugin no more groups are recorded. -/
theorem needs_of_isDecided (h : c.Progress c') (hk : (c.mark k).isDecided) :
    (c'.roster.outline k).needs = (c.roster.outline k).needs := by
  obtain ⟨new, hn, hd, -⟩ := h.needs k
  rw [hn, hd hk, List.append_nil]

/-- A group once recorded stays recorded.  So what a reply has put on record can be relied on in the end. -/
theorem mem_needs (h : c.Progress c') {g : List Nat} (hg : g ∈ (c.roster.outline k).needs) :
    g ∈ (c'.roster.outline k).needs := by
  obtain ⟨new, hn, -⟩ := h.needs k
  exact hn ▸ List.mem_append_left new hg

end Progress

/-! ### Single steps -/

/-- Only plugins that are there are pending. -/
theorem lt_length_of_mark_eq_pending (h : c.mark i = .pending) : i < c.marks.length := by
  refine Nat.lt_of_not_le fun hi => ?_
  rw [mark, List.getElem?_eq_none hi] at h
  exact nomatch h

/-- A mark is set for one plugin. -/
theorem mark_setMark (m : Mark) (h : i < c.marks.length) :
    (c.setMark i m).mark k = if k = i then m else c.mark k := by
  rw [mark, mark, setMark]
  by_cases hk : k = i
  · rw [if_pos hk, hk, List.getElem?_set_self h]; rfl
  · rw [if_neg hk, List.getElem?_set_ne (Ne.symm hk)]

/-- A group is recorded for one plugin, behind its others. -/
theorem outline_addNeed (g : List Nat) :
    (c.addNeed i g).roster.outline k =
      if k = i ∧ i < c.roster.size then { c.roster.outline k with needs := (c.roster.outline k).needs ++ [g] }
      else c.roster.outline k := by
  simp only [addNeed, Roster.outline, Roster.entry_modify]
  split_ifs <;> rfl

/-- Recording a group with members for a plugin that is being asked is progress. -/
theorem progress_addNeed {g : List Nat} (hi : (c.mark i).isDecided = false) (hg : g ≠ [])
    (hlt : ∀ j ∈ g, j < c.roster.size) : c.Progress (c.addNeed i g) where
  size := Roster.size_modify ..
  length := rfl
  plugin k := by rw [outline_addNeed]; split_ifs <;> rfl
  state k := by rw [outline_addNeed]; split_ifs <;> rfl
  mark k := .inl rfl
  needs k := by
    rw [outline_addNeed]
    split_ifs with hk
    · refine ⟨[g], rfl, fun h => absurd (hk.1 ▸ h) (Bool.eq_false_iff.1 hi), fun g' hg' => ?_⟩
      exact List.mem_singleton.1 hg' ▸ ⟨hg, hlt⟩
    · exact ⟨[], (List.append_nil _).symm, fun _ => rfl, nofun⟩

/-- A check that was begun and is over is one step of progress. -/
theorem Progress.setMark {m : Mark} (h : (c.setMark i .inProgress).Progress c') (hi : c.mark i = .pending)
    (hm : m.isDecided) : c.Progress (c'.setMark i m) := by
  have hlt := lt_length_of_mark_eq_pending hi
  have hlt' : i < c'.marks.length := by rw [h.length, Check.setMark, List.length_set]; exact hlt
  refine ⟨h.size, ?_, h.plugin, h.state, fun k => ?_, fun k => ?_⟩
  · rw [Check.setMark, List.length_set, h.length, Check.setMark, List.length_set]
  · rw [mark_setMark m hlt']
    split_ifs with hk
    · exact .inr ⟨hk ▸ hi, hm⟩
    · have hk' := h.mark k
      rwa [mark_setMark _ hlt, if_neg hk] at hk'
  · obtain ⟨new, hn, hd, hg⟩ := h.needs k
    refine ⟨new, hn, fun hk => hd ?_, hg⟩
    rw [mark_setMark _ hlt, if_neg fun he => absurd (he ▸ hk) (by rw [hi]; decide)]
    exact hk

/-- Candidates are the other plugins of the roster that have the property. -/
theorem mem_candidates {property : PluginView → Bool} {asker j : Nat} :
    j ∈ c.candidates asker property ↔ j < c.roster.size ∧ j ≠ asker ∧ property (c.roster.handle j).view := by
  rw [candidates, List.mem_filter, List.mem_range, Bool.and_eq_true, bne_iff_ne]

/-! ### The walk -/

section Walk

variable {ask : Nat → Check → Bool × Check}

/-- Asking for the first that passes makes progress, and who is found is one of those who were asked. -/
theorem progress_firstPassing (hask : ∀ j (c : Check), c.Progress (ask j c).2) (js : List Nat) (c : Check) :
    c.Progress (firstPassing ask js c).2 ∧ ∀ j, (firstPassing ask js c).1 = some j → j ∈ js := by
  induction js generalizing c with
  | nil => exact ⟨.refl c, nofun⟩
  | cons j js ih =>
    rw [firstPassing]
    split
    · next c' heq =>
      exact ⟨by have h := hask j c; rwa [heq] at h, fun k hk => List.mem_cons.2 (.inl (Option.some.inj hk).symm)⟩
    · next c' heq =>
      have hc : c.Progress c' := by have h := hask j c; rwa [heq] at h
      exact ⟨hc.trans (ih c').1, fun k hk => List.mem_cons_of_mem _ ((ih c').2 k hk)⟩

/-- Asking for all that pass makes progress, and they are some of those who were asked. -/
theorem progress_allPassing (hask : ∀ j (c : Check), c.Progress (ask j c).2) (js : List Nat) (c : Check) :
    c.Progress (allPassing ask js c).2 ∧ ∀ j ∈ (allPassing ask js c).1, j ∈ js := by
  induction js generalizing c with
  | nil => exact ⟨.refl c, nofun⟩
  | cons j js ih =>
    simp only [allPassing]
    refine ⟨(hask j c).trans (ih _).1, fun k hk => ?_⟩
    split_ifs at hk
    · exact (List.mem_cons.1 hk).elim (fun h => h ▸ List.mem_cons_self ..)
        fun h => List.mem_cons_of_mem _ ((ih _).2 k h)
    · exact List.mem_cons_of_mem _ ((ih _).2 k hk)

/-- **A reply makes progress**, if checks do.  Other plugins may be asked meanwhile, but the one that asks is in
progress until its own code has ended. -/
theorem progress_serve (hask : ∀ j (c : Check), c.Progress (ask j c).2) {asker : Nat} (h : c.mark asker = .inProgress)
    (q : needSignature.noting.Request) : c.Progress (serve ask asker q c).2 := by
  have undecided : ∀ {c'}, c.Progress c' → (c'.mark asker).isDecided = false := fun hc => by
    rw [hc.mark_of_inProgress h]; rfl
  rcases q with line | name | attributes
  · exact .of_outlines_eq rfl rfl
  · obtain ⟨hc, hj⟩ := progress_firstPassing hask (c.candidates asker fun p => p.name = name) c
    simp only [serve]
    split
    · next j c' heq =>
      rw [heq] at hc hj
      refine hc.trans (progress_addNeed (undecided hc) (List.cons_ne_nil _ _) fun k hk => ?_)
      rw [hc.size, List.mem_singleton.1 hk]
      exact (mem_candidates.1 (hj j rfl)).1
    · next c' heq => rwa [heq] at hc
  · obtain ⟨hc, hj⟩ := progress_allPassing hask (c.candidates asker (·.hasAttributes attributes)) c
    simp only [serve]
    split_ifs with hempty
    · exact hc
    · refine hc.trans (progress_addNeed (undecided hc) (fun h => hempty (List.isEmpty_iff.2 h)) fun k hk => ?_)
      rw [hc.size]
      exact (mem_candidates.1 (hj k hk)).1

/-- The program of a plugin that is being asked makes progress, whatever it asks for. -/
theorem progress_run (hask : ∀ j (c : Check), c.Progress (ask j c).2) {α : Type} {asker : Nat}
    (h : c.mark asker = .inProgress) (t : Task needSignature.noting α) : c.Progress (t.run (serve ask asker) c).2 :=
  Task.run_preserves (P := fun c' => c.Progress c')
    (fun q _ hc => hc.trans (progress_serve hask (hc.mark_of_inProgress h) q)) t (.refl c)

/-- So does the call of its code. -/
theorem progress_callCheck (hask : ∀ j (c : Check), c.Progress (ask j c).2) (h : c.mark i = .inProgress) :
    c.Progress (callCheck ask i c).2 := by
  let entered : Check := { c with roster := c.roster.enter i (.bringUp .checkDeps) }
  have h₁ : c.Progress entered := .of_outlines_eq rfl (Roster.outlines_enter ..)
  have h₂ := progress_run hask (show entered.mark i = .inProgress from h)
    (((c.roster.handle i).plugin.checkDeps c.roster.views).run.run (c.roster.handle i).memory)
  exact (h₁.trans h₂).trans (.of_outlines_eq rfl (Roster.outlines_leave ..))

end Walk

/-- What a check of one plugin comes to: the plugin is decided or being checked already, or too deep, or it is
called, and its mark is what the call comes to. -/
theorem pass_cases (depth i : Nat) (c : Check) :
    ((c.mark i = .accepted ∨ c.mark i = .inProgress) ∧ pass depth i c = (true, c)) ∨
      ((c.mark i).isRejected ∧ pass depth i c = (false, c)) ∨
      (c.mark i = .pending ∧ depth = 0 ∧ pass depth i c = (false, c)) ∨
      ∃ d, depth = d + 1 ∧ c.mark i = .pending ∧
        ((∃ c', callCheck (pass d) i (c.setMark i .inProgress) = (.ok (), c') ∧
            pass depth i c = (true, c'.setMark i .accepted)) ∨
          ∃ e c', callCheck (pass d) i (c.setMark i .inProgress) = (.error e, c') ∧
            pass depth i c = (false, c'.setMark i (.rejected e.message))) := by
  unfold pass
  split
  · next hm => exact .inl ⟨.inl hm, rfl⟩
  · next hm => exact .inl ⟨.inr hm, rfl⟩
  · next hm => exact .inr (.inl ⟨hm ▸ rfl, rfl⟩)
  · next hm =>
    refine .inr (.inr ?_)
    cases depth with
    | zero => exact .inl ⟨hm, rfl, rfl⟩
    | succ d =>
      refine .inr ⟨d, rfl, hm, ?_⟩
      simp only
      split
      · next c' heq => exact .inl ⟨c', heq, rfl⟩
      · next e c' heq => exact .inr ⟨e, c', heq, rfl⟩

/-- The mark of a plugin whose check was called. -/
def markOf : Except PluginError Unit → Mark
  | .ok () => .accepted
  | .error e => .rejected e.message

/-- When the call is over, the plugin is decided. -/
theorem isDecided_markOf (result : Except PluginError Unit) : (markOf result).isDecided := by
  cases result <;> rfl

/-- **What the call of a pending plugin does, every check does**: the checks inside of it go less deep.  This is the
one induction over the depth; what is shown of all checks is shown by it. -/
theorem pass_relates {R : Check → Check → Prop} (hrefl : ∀ c, R c c)
    (hcall : ∀ d i c, (∀ j c, R c (pass d j c).2) → c.mark i = .pending →
      ∀ result c', callCheck (pass d) i (c.setMark i .inProgress) = (result, c') → R c (c'.setMark i (markOf result)))
    (depth i : Nat) (c : Check) : R c (pass depth i c).2 := by
  induction depth generalizing i c with
  | zero =>
    rcases pass_cases 0 i c with ⟨-, h⟩ | ⟨-, h⟩ | ⟨-, -, h⟩ | ⟨d, hd, -⟩
    · exact h ▸ hrefl c
    · exact h ▸ hrefl c
    · exact h ▸ hrefl c
    · cases hd
  | succ d ih =>
    rcases pass_cases (d + 1) i c with ⟨-, h⟩ | ⟨-, h⟩ | ⟨-, -, h⟩ | ⟨d', hd, hm, hresult⟩
    · exact h ▸ hrefl c
    · exact h ▸ hrefl c
    · exact h ▸ hrefl c
    · obtain rfl : d = d' := Nat.succ.inj hd
      rcases hresult with ⟨c', heq, h⟩ | ⟨e, c', heq, h⟩
      · exact h ▸ hcall d i c ih hm _ c' heq
      · exact h ▸ hcall d i c ih hm _ c' heq

/-- **A check makes progress.**  By `pass_relates` it is enough to see this of the call of a pending plugin, whose
replies make progress by the induction there. -/
theorem progress_pass (depth i : Nat) (c : Check) : c.Progress (pass depth i c).2 := by
  refine pass_relates .refl (fun d i c ih hm result c' heq => ?_) depth i c
  have hp := progress_callCheck (c := c.setMark i .inProgress) (i := i) ih
    (by rw [mark_setMark _ (lt_length_of_mark_eq_pending hm), if_pos rfl])
  rw [heq] at hp
  exact hp.setMark hm (isDecided_markOf result)

/-- What the call of a pending plugin keeps, every check keeps. -/
theorem pass_preserves {P : Check → Prop}
    (hcall : ∀ d i c, (∀ j c, P c → P (pass d j c).2) → P c → c.mark i = .pending →
      ∀ result c', callCheck (pass d) i (c.setMark i .inProgress) = (result, c') → P (c'.setMark i (markOf result)))
    (d i : Nat) (h : P c) : P (pass d i c).2 :=
  pass_relates (R := fun c c' => P c → P c') (fun _ h => h)
    (fun d i c ih hm result c' heq h => hcall d i c ih h hm result c' heq) d i c h

/-- While somebody is pending, the bound on the depth is not used up. -/
theorem pendingCount_pos (h : c.mark i = .pending) : 0 < c.pendingCount := by
  have hi := lt_length_of_mark_eq_pending h
  rw [mark, List.getElem?_eq_getElem hi] at h
  exact List.count_pos_iff.2 (h ▸ List.getElem_mem hi)

/-- A check that is allowed to go deep enough decides its plugin. -/
theorem mark_pass_ne_pending {depth : Nat} (h : c.pendingCount ≤ depth) : (pass depth i c).2.mark i ≠ .pending := by
  rcases pass_cases depth i c with ⟨hm, h⟩ | ⟨hm, h⟩ | ⟨hm, hd, -⟩ | ⟨d, hd, hm, hcall⟩
  · rw [h]; rcases hm with hm | hm <;> rw [hm] <;> decide
  · rw [h]; exact fun he => absurd (he ▸ hm) (by decide)
  · have := pendingCount_pos hm; omega
  · have hlt := lt_length_of_mark_eq_pending hm
    have hp := progress_callCheck (c := c.setMark i .inProgress) (i := i) (progress_pass d)
      (by rw [mark_setMark _ hlt, if_pos rfl])
    rcases hcall with ⟨c', heq, h⟩ | ⟨e, c', heq, h⟩ <;> rw [h] <;> rw [heq] at hp <;>
      rw [mark_setMark _ (by rw [hp.length, setMark, List.length_set]; exact hlt), if_pos rfl] <;> exact nofun

/-- Asking one plugin after the other makes progress, and leaves none of them pending. -/
theorem progress_foldl_pass (js : List Nat) (c : Check) :
    c.Progress (js.foldl (fun c i => (pass c.pendingCount i c).2) c) ∧
      ∀ j ∈ js, (js.foldl (fun c i => (pass c.pendingCount i c).2) c).mark j ≠ .pending := by
  induction js generalizing c with
  | nil => exact ⟨.refl c, nofun⟩
  | cons i js ih =>
    rw [List.foldl_cons]
    obtain ⟨hp, hd⟩ := ih (pass c.pendingCount i c).2
    refine ⟨(progress_pass _ _ _).trans hp, fun j hj => ?_⟩
    rcases List.mem_cons.1 hj with rfl | hj
    · rcases hp.mark j with h | ⟨h, -⟩
      · exact h ▸ mark_pass_ne_pending (Nat.le_refl _)
      · exact absurd h (mark_pass_ne_pending (Nat.le_refl _))
    · exact hd j hj

/-- **The walk makes progress.**  So a plugin that is decided in the middle of it is left alone for the rest of it. -/
theorem progress_askAll (c : Check) : c.Progress c.askAll := (progress_foldl_pass _ c).1

/-- **In the end every plugin is decided**, unless its check was under way before.  The walk asks everybody in turn,
and who has been asked stays decided. -/
theorem isDecided_askAll (hk : k < c.roster.size) (h : c.mark k ≠ .inProgress) : (c.askAll.mark k).isDecided := by
  have hne := (progress_foldl_pass (List.range c.roster.size) c).2 k (List.mem_range.2 hk)
  rcases (progress_askAll c).mark k with he | ⟨-, hd⟩
  · cases hm : c.askAll.mark k with
    | accepted => rfl
    | rejected _ => rfl
    | pending => exact absurd hm hne
    | inProgress => exact absurd (he.symm.trans hm) h
  · exact hd

end Check
end BringUp
end Calibration
