/-
# What loading keeps

Modules and directories are loaded plugin by plugin, and what cannot be loaded is passed over.  So what a roster keeps
when one plugin is added, it keeps through every kind of loading.
-/

import Calibration.Host.Loading
import Mathlib.Tactic.SplitIfs

namespace Calibration
namespace Host

variable {P : Roster → Prop} {h : Host}
  (hadd : ∀ r plugin origin version?, P r → P (Roster.add r plugin origin version?))
include hadd

/-- What adding a plugin keeps, loading the table of a module keeps: it adds the plugins of the rows, one by one. -/
theorem loadTable_preserves (hP : P h.roster) (table : List Descriptor) (path : String) :
    P (h.loadTable table path).2.roster := by
  refine List.foldlRecOn (motive := P) table (loadRow path) hP fun r hr row _ => ?_
  rw [loadRow]
  split
  · exact hadd _ _ _ _ hr
  · exact hr

/-- So does loading a module, be it that it is refused. -/
theorem loadModule_preserves (hP : P h.roster) (loader : Loader) (path : String) :
    P (h.loadModule loader path).2.roster := by
  rw [loadModule]
  split
  · exact hP
  split
  · exact hP
  split_ifs
  · exact hP
  split
  · exact hP
  · next table _ =>
    have ht := loadTable_preserves hadd hP table path
    split <;> next heq => rw [heq] at ht; exact ht

/-- So does loading modules one after the other. -/
theorem loadModules_preserves (hP : P h.roster) (loader : Loader) (paths : List String) :
    P (h.loadModules loader paths).2.roster := by
  refine List.foldlRecOn (motive := fun p : Nat × Host => P p.2.roster) paths _ hP fun p hp path _ => ?_
  have hl := loadModule_preserves hadd hp loader path
  split
  split <;> next heq => rw [heq] at hl; exact hl

/-- So does loading a directory, whether it is there or not. -/
theorem loadDirectory_preserves (hP : P h.roster) (loader : Loader) (directory : String) :
    P (h.loadDirectory loader directory).2.roster := by
  rw [loadDirectory]
  split_ifs
  · exact loadModules_preserves hadd hP loader _
  · exact hP

/-- So does loading directories one after the other. -/
theorem loadDirectories_preserves (hP : P h.roster) (loader : Loader) (directories : List String) :
    P (h.loadDirectories loader directories).2.roster := by
  refine List.foldlRecOn (motive := fun p : Nat × Host => P p.2.roster) directories _ hP fun p hp directory _ => ?_
  have hl := loadDirectory_preserves hadd hp loader directory
  split
  split <;> next heq => rw [heq] at hl; exact hl

end Host
end Calibration
