/-
# Runnable plugins have runnable collaborators

The groups of a plugin are recorded while other checks are still under way, and plugins are loaded between one
bring-up and the next.  The invariant that carries over all of it is `Supported`: no plugin is between two phases,
each group has members, all of them were through the dependency check, and who passed it has a collaborator in
each group.  Loading keeps it, since a new plugin needs nobody yet and nobody needs it; each phase keeps it
(`Supported.checkDeps`, `Supported.postCheckDeps`), whatever the code of the plugins does.  So it holds after every
row of operations of a registry.
-/

import Calibration.Builtin.Registry
import Calibration.Proofs.BringUp.Phases
import Calibration.Proofs.Host.Loading

namespace Calibration

open BringUp BringUp.Check

namespace Roster

/-- Who is runnable or past the dependency check has a collaborator in each group, and nobody is between the late
check and being runnable. -/
structure Collaborating (r : Roster) : Prop where
  runnable : ∀ i, i < r.size → (r.handle i).state = .runnable →
    ∀ g ∈ (r.entry i).needs, ∃ j ∈ g, j < r.size ∧ (r.handle j).state = .runnable
  depsChecked : ∀ i, i < r.size → (r.handle i).state = .depsChecked →
    ∀ g ∈ (r.entry i).needs, ∃ j ∈ g, j < r.size ∧ (r.handle j).state.isRejected = false
  not_depsFinalized : ∀ i, i < r.size → (r.handle i).state ≠ .depsFinalized

/-- A state in which a plugin may be left between two operations. -/
def IsResting (s : Lifecycle) : Prop := s = .postLoaded ∨ s = .depsChecked ∨ s = .runnable ∨ s.isRejected

/-- What holds between two operations. -/
structure Supported (r : Roster) : Prop where
  resting : ∀ k, k < r.size → IsResting (r.outline k).state
  group : ∀ k, k < r.size → ∀ g ∈ (r.outline k).needs,
    g ≠ [] ∧ ∀ j ∈ g, j < r.size ∧ (r.outline j).state ≠ .postLoaded
  depsChecked : ∀ k, k < r.size → (r.outline k).state = .depsChecked →
    ∀ g ∈ (r.outline k).needs, ∃ j ∈ g, (r.outline j).state.isRejected = false
  runnable : ∀ k, k < r.size → (r.outline k).state = .runnable →
    ∀ g ∈ (r.outline k).needs, ∃ j ∈ g, (r.outline j).state = .runnable

variable {r : Roster}

/-- What holds between two operations is what the claim on collaborators says, and more: who is at rest is not between
two phases. -/
theorem Supported.collaborating (h : r.Supported) : r.Collaborating where
  runnable i hi hs g hg := by
    obtain ⟨j, hj, hr⟩ := h.runnable i hi hs g hg
    exact ⟨j, hj, ((h.group i hi g hg).2 j hj).1, hr⟩
  depsChecked i hi hs g hg := by
    obtain ⟨j, hj, hr⟩ := h.depsChecked i hi hs g hg
    exact ⟨j, hj, ((h.group i hi g hg).2 j hj).1, hr⟩
  not_depsFinalized i hi hs := by
    have := h.resting i hi
    rw [show (r.outline i).state = .depsFinalized from hs] at this
    rcases this with h | h | h | h <;> exact nomatch h

/-- Of no plugins everything holds. -/
theorem supported_empty : ({} : Roster).Supported :=
  ⟨fun _ h => absurd h (Nat.not_lt_zero _), fun _ h => absurd h (Nat.not_lt_zero _),
    fun _ h => absurd h (Nat.not_lt_zero _), fun _ h => absurd h (Nat.not_lt_zero _)⟩

/-- **Loading a plugin** keeps everything: it needs nobody yet, and nobody needs it.  Neither is it runnable at once,
so that there is nothing to be shown of it. -/
theorem Supported.add (h : r.Supported) (plugin : Plugin) (origin : Origin) (version? : Option (Nat × Nat)) :
    (r.add plugin origin version?).Supported := by
  obtain ⟨state, hstate, -, ho⟩ := r.outline_add plugin origin version?
  have hsize := r.size_add plugin origin version?
  -- An old place keeps its outline; at the new place there are no groups.
  have hold : ∀ k, k < r.size → (r.add plugin origin version?).outline k = r.outline k := fun k hk => by
    rw [ho, if_neg (Nat.ne_of_lt hk)]
  have hcases : ∀ k, k < (r.add plugin origin version?).size →
      k < r.size ∨ (r.add plugin origin version?).outline k = ⟨plugin, state, []⟩ := fun k hk => by
    rcases Nat.lt_succ_iff_lt_or_eq.1 (hsize ▸ hk) with h | rfl
    · exact .inl h
    · exact .inr (by rw [ho, if_pos rfl])
  refine ⟨fun k hk => ?_, fun k hk g hg => ?_, fun k hk hs g hg => ?_, fun k hk hs g hg => ?_⟩
  · rcases hcases k hk with hk | hk
    · exact hold k hk ▸ h.resting k hk
    · rw [hk]
      exact hstate.elim .inl fun h => .inr (.inr (.inr h))
  all_goals
    rcases hcases k hk with hk | hk
    case inr => rw [hk] at hg; exact nomatch hg
    rw [hold k hk] at hg
  · refine ⟨(h.group k hk g hg).1, fun j hj => ?_⟩
    obtain ⟨hlt, hne⟩ := (h.group k hk g hg).2 j hj
    exact ⟨by omega, by rw [hold j hlt]; exact hne⟩
  · obtain ⟨j, hj, hr⟩ := h.depsChecked k hk (hold k hk ▸ hs) g hg
    exact ⟨j, hj, by rw [hold j ((h.group k hk g hg).2 j hj).1]; exact hr⟩
  · obtain ⟨j, hj, hr⟩ := h.runnable k hk (hold k hk ▸ hs) g hg
    exact ⟨j, hj, by rw [hold j ((h.group k hk g hg).2 j hj).1]; exact hr⟩

/-! ### The dependency check -/

/-- After the dependency check nobody is waiting for it. -/
theorem state_checkDeps_ne_postLoaded {k : Nat} (hk : k < r.size) : (r.checkDeps.outline k).state ≠ .postLoaded := by
  rw [r.state_checkDeps hk]
  split_ifs with hs
  · cases (asked r).settled.mark k <;> exact nofun
  · exact hs

/-- A plugin that is rejected by now was rejected before, or its mark is.  So nobody is rejected in the phase but for
a mark. -/
theorem isRejected_state_checkDeps {k : Nat} (hk : k < r.size) (h : ((asked r).settled.mark k).isRejected = false) :
    (r.checkDeps.outline k).state.isRejected = false := by
  rw [r.state_checkDeps hk]
  split_ifs with hs
  · rw [Mark.eq_accepted_of_isDecided (r.isDecided_settled hk) h]; rfl
  · -- A plugin rejected before has kept the mark that it began with.
    refine Bool.eq_false_iff.2 fun hr => ?_
    have hm : ((start r).mark k).isRejected := by
      obtain ⟨stage, reason, hstate⟩ := Lifecycle.exists_of_isRejected hr
      rw [mark_start hk, hstate]
      rfl
    have he := (progress_asked r).mark_of_isDecided (Mark.isDecided_of_isRejected hm)
    rcases settled_cases (length_asked r) k with ⟨hc, -⟩ | ⟨hc, -⟩
    · rw [hc, he, hm] at h; exact nomatch h
    · rw [← he, hc] at hm; exact nomatch hm

/-- Who was past the dependency check before needs what it needed. -/
theorem needs_checkDeps_of_passed {k : Nat} (hk : k < r.size)
    (hs : (r.outline k).state = .depsChecked ∨ (r.outline k).state = .runnable) :
    (r.checkDeps.outline k).needs = (r.outline k).needs := by
  rw [r.needs_checkDeps hk]
  refine (progress_asked r).needs_of_isDecided ?_
  rw [mark_start hk]
  rcases hs with hs | hs <;> rw [hs] <;> rfl

/-- Every group recorded by now has members. -/
theorem Supported.group_checkDeps (h : r.Supported) {k : Nat} (hk : k < r.size) {g : List Nat}
    (hg : g ∈ (r.checkDeps.outline k).needs) : g ≠ [] ∧ ∀ j ∈ g, j < r.size := by
  obtain ⟨new, hn, -, hnew⟩ := (progress_asked r).needs k
  rw [r.needs_checkDeps hk, hn] at hg
  rcases List.mem_append.1 hg with hg | hg
  · exact ⟨(h.group k hk g hg).1, fun j hj => ((h.group k hk g hg).2 j hj).1⟩
  · exact hnew g hg

/-- **The dependency check** keeps everything: the closure of rejections sees to it that who is accepted has an
accepted plugin in each group, and who passed the check before has its groups from before. -/
theorem Supported.checkDeps (h : r.Supported) : r.checkDeps.Supported := by
  have hsize := r.size_checkDeps
  have hkeep : ∀ k, k < r.size → (r.outline k).state ≠ .postLoaded →
      (r.checkDeps.outline k).state = (r.outline k).state := fun k hk hs => by
    rw [r.state_checkDeps hk, if_neg hs]
  refine ⟨fun k hk => ?_, fun k hk g hg => ?_, fun k hk hs g hg => ?_, fun k hk hs g hg => ?_⟩ <;> rw [hsize] at hk
  · rw [r.state_checkDeps hk]
    split_ifs with hs
    · cases (asked r).settled.mark k with
      | accepted => exact .inr (.inl rfl)
      | _ => exact .inr (.inr (.inr rfl))
    · exact h.resting k hk
  · obtain ⟨hne, hlt⟩ := h.group_checkDeps hk hg
    exact ⟨hne, fun j hj => ⟨hsize.symm ▸ hlt j hj, state_checkDeps_ne_postLoaded (hlt j hj)⟩⟩
  · obtain ⟨hne, hlt⟩ := h.group_checkDeps hk hg
    by_cases hp : (r.outline k).state = .postLoaded
    · -- The plugin was checked just now: its settled mark vouches for a member.
      rw [r.state_checkDeps hk, if_pos hp, verdict_eq_depsChecked] at hs
      rw [r.needs_checkDeps hk] at hg
      obtain ⟨-, hgroups⟩ := exists_accepted_of_settled (length_asked r) (by rw [size_asked]; exact hk) hs
      obtain ⟨j, hj, hr⟩ := hgroups g hg hne
      exact ⟨j, hj, isRejected_state_checkDeps (hlt j hj) hr⟩
    · rw [hkeep k hk hp] at hs
      rw [needs_checkDeps_of_passed hk (.inl hs)] at hg
      obtain ⟨j, hj, hr⟩ := h.depsChecked k hk hs g hg
      exact ⟨j, hj, by rw [hkeep j (hlt j hj) ((h.group k hk g hg).2 j hj).2]; exact hr⟩
  · obtain ⟨hne, hlt⟩ := h.group_checkDeps hk hg
    have hrun : (r.outline k).state = .runnable := by
      rw [r.state_checkDeps hk] at hs
      split_ifs at hs
      · revert hs
        cases (asked r).settled.mark k <;> exact nofun
      · exact hs
    rw [needs_checkDeps_of_passed hk (.inr hrun)] at hg
    obtain ⟨j, hj, hr⟩ := h.runnable k hk hrun g hg
    exact ⟨j, hj, by rw [hkeep j (hlt j hj) (by rw [hr]; exact nofun)]; exact hr⟩

/-! ### The late check -/

/-- Who is at rest is not between the late check and being runnable. -/
theorem IsResting.ne_depsFinalized {s : Lifecycle} (h : IsResting s) : s ≠ .depsFinalized := by
  rintro rfl
  rcases h with h | h | h | h <;> exact nomatch h

/-- A plugin that becomes runnable just now: each of its groups has a member that no late rejection met, and that is
runnable, too. -/
theorem Supported.exists_runnable_of_late (h : r.Supported) {k : Nat} (hk : k < r.size)
    (hfin : (r.lateChecked.settleLate.outline k).state = .depsFinalized) {g : List Nat} (hg : g ∈ (r.outline k).needs) :
    ∃ j ∈ g, (r.postCheckDeps.outline j).state = .runnable := by
  have hk' : k < r.lateChecked.size := by rw [size_lateChecked]; exact hk
  obtain ⟨j, hj, hr⟩ := r.lateChecked.exists_standing_of_settleLate hk' hfin g
    (by rw [r.needs_lateChecked hk]; exact hg) (h.group k hk g hg).1
  obtain ⟨hlt, hnp⟩ := (h.group k hk g hg).2 j hj
  refine ⟨j, hj, ?_⟩
  rcases r.state_postCheckDeps hlt (h.resting j hlt).ne_depsFinalized with ⟨-, ⟨hs, -⟩ | ⟨-, hs⟩⟩ | ⟨hnd, he, he'⟩
  · exact hs
  · rw [hs] at hr; exact nomatch hr
  · rw [he'] at hr
    rw [he]
    rcases h.resting j hlt with hs | hs | hs | hs
    · exact absurd hs hnp
    · exact absurd hs hnd
    · exact hs
    · rw [hs] at hr; exact nomatch hr

/-- **The late phase** keeps everything: who becomes runnable has a runnable plugin in each group, by the second
closure. -/
theorem Supported.postCheckDeps (h : r.Supported) : r.postCheckDeps.Supported := by
  have hsize := r.size_postCheckDeps
  have hstate := fun k hk => r.state_postCheckDeps (k := k) hk (h.resting k hk).ne_depsFinalized
  have hne : ∀ k, k < r.size → (r.postCheckDeps.outline k).state ≠ .depsChecked := fun k hk => by
    rcases hstate k hk with ⟨-, ⟨hs, -⟩ | ⟨hs, -⟩⟩ | ⟨hs, he, -⟩
    · rw [hs]; exact nofun
    · exact fun he => by rw [he] at hs; exact nomatch hs
    · rw [he]; exact hs
  refine ⟨fun k hk => ?_, fun k hk g hg => ?_, fun k hk hs => ?_, fun k hk hs g hg => ?_⟩ <;> rw [hsize] at hk
  · rcases hstate k hk with ⟨-, ⟨hs, -⟩ | ⟨hs, -⟩⟩ | ⟨-, he, -⟩
    · exact .inr (.inr (.inl hs))
    · exact .inr (.inr (.inr hs))
    · rw [he]; exact h.resting k hk
  · rw [r.needs_postCheckDeps hk] at hg
    refine ⟨(h.group k hk g hg).1, fun j hj => ?_⟩
    obtain ⟨hlt, hnp⟩ := (h.group k hk g hg).2 j hj
    refine ⟨hsize.symm ▸ hlt, ?_⟩
    rcases hstate j hlt with ⟨-, ⟨hs, -⟩ | ⟨hs, -⟩⟩ | ⟨-, he, -⟩
    · rw [hs]; exact nofun
    · exact fun he => by rw [he] at hs; exact nomatch hs
    · rw [he]; exact hnp
  · exact absurd hs (hne k hk)
  · rw [r.needs_postCheckDeps hk] at hg
    rcases hstate k hk with ⟨hd, ⟨-, hfin⟩ | ⟨hrej, -⟩⟩ | ⟨-, he, -⟩
    · exact h.exists_runnable_of_late hk hfin hg
    · rw [hs] at hrej; exact nomatch hrej
    · obtain ⟨j, hj, hr⟩ := h.runnable k hk (he ▸ hs) g hg
      refine ⟨j, hj, ?_⟩
      rcases hstate j ((h.group k hk g hg).2 j hj).1 with ⟨hd, -⟩ | ⟨-, he, -⟩
      · rw [hr] at hd; exact nomatch hd
      · rw [he]; exact hr

end Roster

namespace Host

/-- An operation of a registry. -/
inductive Operation where
  | loadStatic (plugin : Plugin) (items? : Option Factory)
  | loadModule (loader : Loader) (path : String)
  | loadDirectory (loader : Loader) (directory : String)
  | loadDirectories (loader : Loader) (directories : List String)
  | checkDeps
  | postCheckDeps
  | bringUp

/-- The host after an operation, whatever its result. -/
def Operation.run (h : Host) : Operation → Host
  | loadStatic plugin items? => h.loadStatic plugin items?
  | loadModule loader path => (h.loadModule loader path).2
  | loadDirectory loader directory => (h.loadDirectory loader directory).2
  | loadDirectories loader directories => (h.loadDirectories loader directories).2
  | checkDeps => h.checkDeps
  | postCheckDeps => h.postCheckDeps
  | bringUp => h.bringUp.2

/-- A new host over some files, with the built-in plugins or without. -/
def opened (builtins : Bool) (files : Files) : Host :=
  if builtins then .withBuiltins files else { store := { ({} : Host).store with files } }

variable {h : Host}

/-- What adding a plugin and both phases keep, every operation keeps. -/
theorem run_preserves {P : Roster → Prop}
    (hadd : ∀ r plugin origin version?, P r → P (Roster.add r plugin origin version?))
    (hcheck : ∀ r, P r → P (Roster.checkDeps r)) (hlate : ∀ r, P r → P (Roster.postCheckDeps r)) (hP : P h.roster)
    (op : Operation) : P (op.run h).roster := by
  cases op with
  | loadStatic plugin items? => exact hadd _ plugin .static none hP
  | loadModule loader path => exact loadModule_preserves hadd hP loader path
  | loadDirectory loader directory => exact loadDirectory_preserves hadd hP loader directory
  | loadDirectories loader directories => exact loadDirectories_preserves hadd hP loader directories
  | checkDeps => exact hcheck _ hP
  | postCheckDeps => exact hlate _ hP
  | bringUp =>
    simp only [Operation.run, Host.bringUp, Roster.bringUp]
    exact hlate _ (hcheck _ hP)

/-- What holds of no plugins and is kept when one is added, holds of a new host. -/
theorem opened_of_add {P : Roster → Prop}
    (hadd : ∀ r plugin origin version?, P r → P (Roster.add r plugin origin version?)) (hempty : P {})
    (builtins : Bool) (files : Files) : P (opened builtins files).roster := by
  cases builtins
  · exact hempty
  · exact hadd _ (DataSavior.plugin mainTable) .builtin none (hadd _ (DictHash.plugin mainTable) .builtin none hempty)

/-- Everything holds of a new host, with the built-in plugins or without. -/
theorem supported_opened (builtins : Bool) (files : Files) : (opened builtins files).roster.Supported :=
  opened_of_add (fun _ plugin origin version? h => h.add plugin origin version?) Roster.supported_empty builtins files

/-- **One operation** keeps everything.  It adds plugins or goes through phases, and each of these has its lemma
above. -/
theorem supported_run (hs : h.roster.Supported) (op : Operation) : (op.run h).roster.Supported :=
  run_preserves (fun _ plugin origin version? h => h.add plugin origin version?) (fun _ h => h.checkDeps)
    (fun _ h => h.postCheckDeps) hs op

/-- **Any row of operations keeps everything**: loading, both phases, in any order and any number of times.  It is the
induction that brings the steps together. -/
theorem supported_foldl_run (hs : h.roster.Supported) (ops : List Operation) :
    (ops.foldl Operation.run h).roster.Supported := by
  induction ops generalizing h with
  | nil => exact hs
  | cons op ops ih => exact ih (supported_run hs op)

/-- **Runnable plugins have runnable collaborators**, after any row of operations of a registry, whatever the
plugins' code asks for and however it ends. -/
theorem collaborating_foldl_run (builtins : Bool) (files : Files) (ops : List Operation) :
    (ops.foldl Operation.run (opened builtins files)).roster.Collaborating :=
  (supported_foldl_run (supported_opened builtins files) ops).collaborating

end Host
end Calibration
