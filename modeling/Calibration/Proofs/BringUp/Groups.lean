/-
# What the recorded groups are

A group that a plugin needs is a list of places, recorded in a dependency check and read in every later phase, when more
plugins may have been loaded.  Whoever is asked for is found among the others, so that a group has members, all of them
are plugins of the roster, and the plugin itself is none of them (`Roster.Grouped`).  Recording is the only way in which
groups come about: loading and the late check leave all groups as they are, and a dependency check adds groups of
plugins that were loaded before it began (`needs_checkDeps_append`).
-/

import Calibration.Proofs.BringUp.Bounds
import Calibration.Proofs.BringUp.Collaborators
import Calibration.Proofs.BringUp.LeastClosure

namespace Calibration

namespace Roster

/-- A group that the plugin at a place may need. -/
structure IsGroupOf (r : Roster) (i : Nat) (g : List Nat) : Prop where
  ne_nil : g ≠ []
  lt_size : ∀ j ∈ g, j < r.size
  ne_self : i ∉ g

/-- All recorded groups are of loaded plugins, and none is of the plugin itself. -/
def Grouped (r : Roster) : Prop := ∀ i, ∀ g ∈ (r.entry i).needs, r.IsGroupOf i g

variable {r r' : Roster}

/-- A group stays a group when plugins are loaded. -/
theorem IsGroupOf.mono {i : Nat} {g : List Nat} (h : r.IsGroupOf i g) (hsize : r.size ≤ r'.size) : r'.IsGroupOf i g :=
  { h with lt_size := fun j hj => Nat.lt_of_lt_of_le (h.lt_size j hj) hsize }

/-- What becomes of the groups is seen from the groups that each plugin has. -/
theorem Grouped.of_needs (h : r.Grouped) (hsize : r.size ≤ r'.size)
    (hneeds : ∀ i, (r'.entry i).needs = (r.entry i).needs) : r'.Grouped :=
  fun i g hg => (h i g (hneeds i ▸ hg)).mono hsize

/-- What the groups are is told by the outlines. -/
theorem Grouped.of_outlines_eq (h : r.Grouped) (ho : r'.outlines = r.outlines) : r'.Grouped :=
  h.of_needs (Nat.le_of_eq (size_of_outlines_eq ho).symm) fun i => congrArg Outline.needs (outline_of_outlines_eq ho i)

end Roster

namespace BringUp
namespace Check

open Roster (Grouped)

variable {c : Check} {asker : Nat} {ask : Nat → Check → Bool × Check}

/-! ### The walk -/

/-- A group of others may be recorded. -/
theorem grouped_addNeed (h : c.roster.Grouped) {g : List Nat} (hg : c.roster.IsGroupOf asker g) :
    (c.addNeed asker g).roster.Grouped := by
  have hsize : (c.addNeed asker g).roster.size = c.roster.size := Roster.size_modify ..
  intro k g' hg'
  refine Roster.IsGroupOf.mono (r := c.roster) ?_ (Nat.le_of_eq hsize.symm)
  rw [addNeed, Roster.entry_modify] at hg'
  split_ifs at hg' with hk
  · rcases List.mem_append.1 hg' with hg' | hg'
    · exact h k g' hg'
    · rw [List.mem_singleton.1 hg', hk.1]
      exact hg
  · exact h k g' hg'

/-- **Candidates are others**, and plugins of the roster: whoever asks is passed over.  A group that is chosen from
them has therefore no place in it that is out of range or its owner's. -/
theorem isGroupOf_candidates (property : PluginView → Bool) {c' : Check} (hc : c.Progress c') {g : List Nat}
    (hne : g ≠ []) (hg : ∀ j ∈ g, j ∈ c.candidates asker property) : c'.roster.IsGroupOf asker g where
  ne_nil := hne
  lt_size j hj := hc.size.symm ▸ (mem_candidates.1 (hg j hj)).1
  ne_self hself := (mem_candidates.1 (hg asker hself)).2.1 rfl

section Walk

variable (hask : ∀ j (c : Check), c.Progress (ask j c).2)
  (hkeep : ∀ j (c : Check), c.roster.Grouped → (ask j c).2.roster.Grouped)
include hask hkeep

/-- **A reply records a group of others.**  A request that fails records nothing, and one that finds a single plugin
records it alone. -/
theorem grouped_serve (h : c.roster.Grouped) (q : needSignature.noting.Request) :
    (serve ask asker q c).2.roster.Grouped := by
  rcases q with line | name | attributes
  · exact h.of_outlines_eq rfl
  · obtain ⟨hc, hj⟩ := progress_firstPassing hask (c.candidates asker fun p => p.name = name) c
    have hg := firstPassing_preserves (P := fun c => c.roster.Grouped) hkeep
      (c.candidates asker fun p => p.name = name) h
    simp only [serve]
    split
    · next j c' heq =>
      rw [heq] at hc hj hg
      have hcandidate : ∀ k ∈ [j], k ∈ c.candidates asker fun p => p.name = name := fun k hk =>
        List.mem_singleton.1 hk ▸ hj j rfl
      exact grouped_addNeed hg (isGroupOf_candidates _ hc (List.cons_ne_nil j []) hcandidate)
    · next c' heq => rwa [heq] at hg
  · obtain ⟨hc, hj⟩ := progress_allPassing hask (c.candidates asker (·.hasAttributes attributes)) c
    have hg := allPassing_preserves (P := fun c => c.roster.Grouped) hkeep
      (c.candidates asker (·.hasAttributes attributes)) h
    simp only [serve]
    split_ifs with hempty
    · exact hg
    · exact grouped_addNeed hg (isGroupOf_candidates _ hc (fun hnil => hempty (List.isEmpty_iff.2 hnil)) hj)

/-- A call records groups only by the replies to its code. -/
theorem grouped_callCheck (i : Nat) (h : c.roster.Grouped) : (callCheck ask i c).2.roster.Grouped := by
  have hentered : (c.entered i).roster.Grouped := h.of_outlines_eq (Roster.outlines_enter ..)
  have hserve : ∀ q (c : Check), c.roster.Grouped → (serve ask i q c).2.roster.Grouped := fun q _ hc =>
    grouped_serve hask hkeep hc q
  have hrun := Task.run_preserves (P := fun c : Check => c.roster.Grouped) hserve (c.program i) hentered
  exact hrun.of_outlines_eq (callCheck_eq ask i c).2.2

end Walk

/-- A check keeps the groups as they should be, at every depth. -/
theorem grouped_pass (depth i : Nat) (h : c.roster.Grouped) : (pass depth i c).2.roster.Grouped := by
  refine pass_preserves (P := fun c => c.roster.Grouped) (fun d i c ih h _ result c' heq => ?_) depth i h
  have hcall := grouped_callCheck (c := c.setMark i .inProgress) (progress_pass d) ih i h
  rw [heq] at hcall
  exact hcall

/-- So does the whole walk. -/
theorem grouped_askAll (h : c.roster.Grouped) : c.askAll.roster.Grouped :=
  List.foldlRecOn (motive := fun c : Check => c.roster.Grouped) _ _ h fun c hc i _ => grouped_pass c.pendingCount i hc

end Check
end BringUp

open BringUp.Check

namespace Roster

variable {r : Roster}

/-! ### The operations -/

/-- Loading a plugin leaves all groups as they are, and the new one has none. -/
theorem needs_add (plugin : Plugin) (origin : Origin) (version? : Option (Nat × Nat)) (i : Nat) :
    ((r.add plugin origin version?).entry i).needs = (r.entry i).needs := by
  obtain ⟨state, -, -, ho⟩ := r.outline_add plugin origin version?
  refine (congrArg Outline.needs (ho i)).trans ?_
  split_ifs with hi
  · rw [needs_of_size_le (Nat.le_of_eq hi.symm)]
  · rfl

/-- What is recorded in the dependency check is recorded in its walk; the verdicts after it leave the groups alone. -/
theorem needs_entry_checkDeps (i : Nat) : (r.checkDeps.entry i).needs = ((asked r).roster.entry i).needs := by
  by_cases hi : i < r.size
  · exact r.needs_checkDeps hi
  · rw [needs_of_size_le (r.size_checkDeps.symm ▸ Nat.not_lt.1 hi),
      needs_of_size_le ((size_asked r).symm ▸ Nat.not_lt.1 hi)]

/-- The late phase leaves all groups as they are. -/
theorem needs_entry_postCheckDeps (i : Nat) : (r.postCheckDeps.entry i).needs = (r.entry i).needs := by
  by_cases hi : i < r.size
  · exact r.needs_postCheckDeps hi
  · rw [needs_of_size_le (r.size_postCheckDeps.symm ▸ Nat.not_lt.1 hi), needs_of_size_le (Nat.not_lt.1 hi)]

/-- Loading keeps the groups as they should be, since places stay places. -/
theorem Grouped.add (h : r.Grouped) (plugin : Plugin) (origin : Origin) (version? : Option (Nat × Nat)) :
    (r.add plugin origin version?).Grouped :=
  h.of_needs (by rw [size_add]; exact Nat.le_succ _) (needs_add plugin origin version?)

/-- The dependency check keeps them. -/
theorem Grouped.checkDeps (h : r.Grouped) : r.checkDeps.Grouped := by
  have hasked : (asked r).roster.Grouped := grouped_askAll (c := start r) h
  exact hasked.of_needs (Nat.le_of_eq (by rw [size_checkDeps, size_asked])) needs_entry_checkDeps

/-- The late phase keeps them. -/
theorem Grouped.postCheckDeps (h : r.Grouped) : r.postCheckDeps.Grouped :=
  h.of_needs (Nat.le_of_eq r.size_postCheckDeps.symm) needs_entry_postCheckDeps

/-- **A dependency check records groups of plugins that are loaded**, and keeps those recorded before.  So a group
that is read in a later phase never names a plugin that was not there when it was recorded. -/
theorem needs_checkDeps_append (h : r.Grouped) (i : Nat) :
    ∃ new, (r.checkDeps.entry i).needs = (r.entry i).needs ++ new ∧ ∀ g ∈ new, r.IsGroupOf i g := by
  obtain ⟨new, hnew, -⟩ := (progress_asked r).needs i
  have hneeds : (r.checkDeps.entry i).needs = (r.entry i).needs ++ new := (needs_entry_checkDeps i).trans hnew
  refine ⟨new, hneeds, fun g hg => (h.checkDeps i g ?_).mono (Nat.le_of_eq r.size_checkDeps)⟩
  rw [hneeds]
  exact List.mem_append_right _ hg

end Roster

namespace Host

variable {h : Host}

/-- In a new host all groups are as they should be: the built-in plugins have none. -/
theorem grouped_opened (builtins : Bool) (files : Files) : (opened builtins files).roster.Grouped :=
  opened_of_add (fun _ plugin origin version? h => h.add plugin origin version?) (fun _ _ hg => nomatch hg) builtins
    files

/-- **All recorded groups are groups**, after any row of operations.  No place outside the roster is ever looked up in
one of them, and no plugin waits for itself. -/
theorem grouped_foldl_run (hg : h.roster.Grouped) (ops : List Operation) :
    (ops.foldl Operation.run h).roster.Grouped := by
  induction ops generalizing h with
  | nil => exact hg
  | cons op ops ih =>
    exact ih (run_preserves (fun _ plugin origin version? h => h.add plugin origin version?) (fun _ h => h.checkDeps)
      (fun _ h => h.postCheckDeps) hg op)

/-- **An operation records groups of plugins that were loaded before it**, and keeps those recorded before.  Loading
records nothing, and neither does the late phase. -/
theorem needs_run_append (hg : h.roster.Grouped) (op : Operation) (i : Nat) :
    ∃ new, ((op.run h).roster.entry i).needs = (h.roster.entry i).needs ++ new ∧
      ∀ g ∈ new, h.roster.IsGroupOf i g := by
  let Same (r : Roster) : Prop := (r.entry i).needs = (h.roster.entry i).needs
  have hadd : ∀ r plugin origin version?, Same r → Same (Roster.add r plugin origin version?) :=
    fun r plugin origin version? hsame => (Roster.needs_add plugin origin version? i).trans hsame
  have hnone {r : Roster} (hsame : Same r) :
      ∃ new, (r.entry i).needs = (h.roster.entry i).needs ++ new ∧ ∀ g ∈ new, h.roster.IsGroupOf i g :=
    ⟨[], by rw [hsame, List.append_nil], nofun⟩
  cases op with
  | loadStatic plugin items? => exact hnone (hadd _ plugin .static none rfl)
  | loadModule loader path => exact hnone (loadModule_preserves hadd rfl loader path)
  | loadDirectory loader directory => exact hnone (loadDirectory_preserves hadd rfl loader directory)
  | loadDirectories loader directories => exact hnone (loadDirectories_preserves hadd rfl loader directories)
  | checkDeps => exact Roster.needs_checkDeps_append hg i
  | postCheckDeps => exact hnone (Roster.needs_entry_postCheckDeps i)
  | bringUp =>
    obtain ⟨new, hneeds, hnew⟩ := Roster.needs_checkDeps_append hg i
    simp only [Operation.run, Host.bringUp, Roster.bringUp]
    exact ⟨new, (Roster.needs_entry_postCheckDeps i).trans hneeds, hnew⟩

end Host
end Calibration
