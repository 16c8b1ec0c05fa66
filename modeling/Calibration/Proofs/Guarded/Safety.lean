/-
# No row of operations leads a registry astray

A host over some files, with the built-in plugins or without, loads plugins and brings them up in any order.  What each
operation is for the arrays of the registry is told beside it (`Host.follow`): a load adds the plugins that it has
found, one by one, and the phases are phases.  Whatever the plugins' code asks for and however it ends, the checked
operations come through without a mishap, and the arrays are those of the roster (`Host.safe_follow`).
-/

import Calibration.Proofs.Guarded.Phases

namespace Calibration
namespace Host

open Guarded (Checked Registry bind_of_ok)

/-- The plugins of a host from a place on, in load order. -/
def pluginsFrom (h : Host) (place : Nat) : List Plugin := (h.roster.handles.drop place).map (·.plugin)

/-- What an operation is for the arrays of the registry. -/
def Operation.check (h : Host) (g : Registry) : Operation → Checked Registry
  | checkDeps => g.checkDeps
  | postCheckDeps => g.postCheckDeps
  | bringUp => do (← g.checkDeps).postCheckDeps
  | load => ((load.run h).pluginsFrom h.roster.size).foldlM Registry.add g

/-- A row of operations of a host, on the arrays of its registry. -/
def followFrom (h : Host) (g : Registry) : List Operation → Checked Registry
  | [] => .ok g
  | op :: ops => do followFrom (op.run h) (← op.check h g) ops

/-- A row of operations of a new host, on the arrays of its registry. -/
def follow (builtins : Bool) (files : Files) (ops : List Operation) : Checked Registry := do
  let h := opened builtins files
  followFrom h (← (h.pluginsFrom 0).foldlM Registry.add {}) ops

variable {h : Host} {g : Registry}

/-- The plugins added since there were so many, added to the arrays that there were then. -/
def Followed (g : Registry) (size : Nat) (r : Roster) : Prop :=
  size ≤ r.size ∧ ∃ g', ((r.handles.drop size).map (·.plugin)).foldlM Registry.add g = .ok g' ∧ g'.Shows r

/-- Nothing added, nothing to follow. -/
theorem followed_self {r : Roster} (hg : g.Shows r) : Followed g r.size r := by
  refine ⟨Nat.le_refl _, g, ?_, hg⟩
  rw [List.drop_of_length_le (Nat.le_of_eq Roster.length_handles)]
  rfl

/-- **Loading is followed plugin by plugin.**  A module is loaded by such steps, as many as it has plugins. -/
theorem Followed.add {size : Nat} {r : Roster} (hr : Followed g size r) (plugin : Plugin) (origin : Origin)
    (version? : Option (Nat × Nat)) : Followed g size (r.add plugin origin version?) := by
  obtain ⟨hsize, g', hg', hshows⟩ := hr
  obtain ⟨g'', hg'', hshows'⟩ := hshows.add plugin origin version?
  obtain ⟨x, -, hplugin, hhandles⟩ := Registry.tend_ok r plugin origin version?
  refine ⟨Nat.le_trans hsize (by rw [Roster.size_add]; exact Nat.le_succ _), g'', ?_, hshows'⟩
  rw [hhandles, List.drop_append_of_le_length (Roster.length_handles.symm ▸ hsize), List.map_append, List.foldlM_append,
    bind_of_ok hg', List.map_singleton, hplugin, List.foldlM_cons, bind_of_ok hg'']
  rfl

/-- **One operation without a mishap.**  The arrays show the roster afterwards as they did before. -/
theorem shows_check (hg : g.Shows h.roster) (hr : h.roster.Grouped) (op : Operation) :
    ∃ g', op.check h g = .ok g' ∧ g'.Shows (op.run h).roster := by
  have hadd : ∀ r plugin origin version?, Followed g h.roster.size r →
      Followed g h.roster.size (Roster.add r plugin origin version?) :=
    fun _ plugin origin version? hr => hr.add plugin origin version?
  have hself := followed_self hg
  cases op with
  | loadStatic plugin items? => exact (hadd _ plugin .static none hself).2
  | loadModule loader path => exact (loadModule_preserves hadd hself loader path).2
  | loadDirectory loader directory => exact (loadDirectory_preserves hadd hself loader directory).2
  | loadDirectories loader directories => exact (loadDirectories_preserves hadd hself loader directories).2
  | checkDeps => exact hg.checkDeps hr
  | postCheckDeps => exact hg.postCheckDeps hr
  | bringUp =>
    obtain ⟨g', hg', hshows⟩ := hg.checkDeps hr
    obtain ⟨g'', hg'', hshows'⟩ := hshows.postCheckDeps hr.checkDeps
    refine ⟨g'', (bind_of_ok hg' _).trans hg'', ?_⟩
    simp only [Operation.run, Host.bringUp, Roster.bringUp]
    exact hshows'

/-- **A row of operations without a mishap**, from any arrays that show the roster of the host: each operation keeps
this, and keeps the groups as they should be. -/
theorem shows_followFrom (hg : g.Shows h.roster) (hr : h.roster.Grouped) (ops : List Operation) :
    ∃ g', h.followFrom g ops = .ok g' ∧ g'.Shows (ops.foldl Operation.run h).roster := by
  induction ops generalizing h g with
  | nil => exact ⟨g, rfl, hg⟩
  | cons op ops ih =>
    obtain ⟨g', hg', hshows⟩ := shows_check hg hr op
    obtain ⟨g'', hg'', hshows'⟩ := ih hshows (grouped_foldl_run hr [op])
    exact ⟨g'', (bind_of_ok hg' _).trans hg'', hshows'⟩

/-- **A registry never leaves its arrays and never takes an illegal step**, after any row of operations, whatever the
plugins' code asks for and however it ends: all recorded groups are of loaded plugins other than the one that needs
them, each was so when it was recorded, and the operations, checked at each access and each step, come through and leave
the arrays of the roster. -/
theorem safe_follow (builtins : Bool) (files : Files) (ops : List Operation) :
    let h := ops.foldl Operation.run (opened builtins files)
    h.roster.Grouped ∧
      (∀ op i, ∃ new, ((Operation.run h op).roster.entry i).needs = (h.roster.entry i).needs ++ new ∧
        ∀ group ∈ new, h.roster.IsGroupOf i group) ∧
      ∃ g, follow builtins files ops = .ok g ∧ g.Shows h.roster := by
  have hopened := grouped_opened builtins files
  have hgrouped := grouped_foldl_run hopened ops
  refine ⟨hgrouped, fun op i => needs_run_append hgrouped op i, ?_⟩
  have hloaded : Followed {} 0 (opened builtins files).roster :=
    opened_of_add (fun _ plugin origin version? hr => hr.add plugin origin version?)
      (followed_self Registry.shows_empty) builtins files
  obtain ⟨-, g, hg, hshows⟩ := hloaded
  obtain ⟨g', hg', hshows'⟩ := shows_followFrom hshows hopened ops
  exact ⟨g', (bind_of_ok hg _).trans hg', hshows'⟩

/-- A screen that needs light is checked with a lamp, and a clock is loaded before the late check. -/
def evening : List Operation :=
  [.loadStatic (SteadyPlugin.ofNeeds "Screen" [] [.requireAttributes ["Light"]]).plugin none,
    .loadStatic (SteadyPlugin.ofNeeds "Lamp" ["Light"] []).plugin none, .checkDeps,
    .loadStatic { name := "Clock" } none, .postCheckDeps]

/-- The late check finds the lamp in the group of the screen, and no group for the clock. -/
theorem evening_is_safe :
    let h := evening.foldl Operation.run (opened false {})
    ∃ g, follow false {} evening = .ok g ∧ g.Shows h.roster ∧ g.requires = [[[1]], []] ∧
      g.handles.map (·.state) = [.runnable, .runnable, .postLoaded] ∧ h.roster.IsGroupOf 0 [1] := by
  obtain ⟨hgrouped, -, g, hg, hshows⟩ := safe_follow false {} evening
  have hend : (follow false {} evening).toOption.map (fun g => (g.requires, g.handles.map (·.state))) =
      some ([[[1]], []], [.runnable, .runnable, .postLoaded]) := by decide +kernel
  rw [hg] at hend
  obtain ⟨hrequires, hstates⟩ := Prod.mk.inj (Option.some.inj hend)
  refine ⟨g, hg, hshows, hrequires, hstates, hgrouped 0 [1] ?_⟩
  rw [← hshows.requires, hrequires]
  exact List.mem_singleton_self [1]

end Host
end Calibration
