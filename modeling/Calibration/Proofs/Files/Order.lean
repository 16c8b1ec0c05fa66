/-
# The order in which directories give their entries

The files of a host come in some order, and a directory gives its entries in that order.  What stands at a path does
not depend on it.  Nor do the module files of a directory: they are listed in the order of their paths.
-/

import Calibration.Host.Loading
import Calibration.Proofs.Files.Saved
import Mathlib.Data.List.Sort
import Mathlib.Data.String.Basic

namespace Calibration

namespace Files

/-- The same node at every path, but the directories may give their entries in another order. -/
structure Reordered (fs fs' : Files) : Prop where
  node? : ∀ parts, fs'.node? parts = fs.node? parts
  children : ∀ directory, (fs'.children directory).Perm (fs.children directory)

variable {fs fs' : Files}

/-- Where every name stands once, what is found at a path is what stands there. -/
theorem find?_eq_some_iff_mem (hd : (fs.nodes.map Prod.fst).Nodup) (parts : List String)
    (entry : List String × FileNode) :
    fs.nodes.find? (·.1 = parts) = some entry ↔ entry ∈ fs.nodes ∧ entry.1 = parts := by
  constructor
  · intro h
    exact ⟨List.mem_of_find?_eq_some h, by simpa using List.find?_some h⟩
  · rintro ⟨hmem, rfl⟩
    obtain ⟨found, hfound⟩ : ∃ found, fs.nodes.find? (·.1 = entry.1) = some found := by
      rw [← Option.isSome_iff_exists, List.find?_isSome]
      exact ⟨entry, hmem, by simp⟩
    have hkey : found.1 = entry.1 := by simpa using List.find?_some hfound
    rw [hfound, List.inj_on_of_nodup_map hd (List.mem_of_find?_eq_some hfound) hmem hkey]

/-- Where every name stands once, any order of the nodes gives the same files. -/
theorem reordered_of_perm (hd : (fs.nodes.map Prod.fst).Nodup) (hp : fs'.nodes.Perm fs.nodes) : fs.Reordered fs' where
  node? parts := by
    have hd' : (fs'.nodes.map Prod.fst).Nodup := (hp.map Prod.fst).nodup_iff.2 hd
    have hfind : fs'.nodes.find? (·.1 = parts) = fs.nodes.find? (·.1 = parts) := by
      ext entry
      rw [find?_eq_some_iff_mem hd', find?_eq_some_iff_mem hd, hp.mem_iff]
    rw [Files.node?, Files.node?, hfind]
  children directory := hp.filterMap _

namespace Reordered

/-- Names lead to the same place in files that are reordered. -/
theorem locate (h : fs.Reordered fs') (done names : List String) : fs'.locate done names = fs.locate done names := by
  have hchild : ∀ done name, fs'.child done name = fs.child done name := by
    intro done name
    rw [Files.child, Files.child, h.node?]
  fun_induction fs.locate done names with
  | case1 done => rw [Files.locate, h.node?]
  | case2 done name => rw [Files.locate, hchild]
  | case3 done name rest hne e heq => rw [Files.locate, hchild, heq]; exact hne
  | case4 done name rest hne heq => rw [Files.locate, hchild, heq]; exact hne
  | case5 done name rest hne content heq => rw [Files.locate, hchild, heq]; exact hne
  | case6 done name rest hne heq ih => rw [Files.locate, hchild, heq]; exacts [ih, hne]

/-- So do paths. -/
theorem lookup (h : fs.Reordered fs') (p : Path) : fs'.lookup p = fs.lookup p := by
  simp only [Files.lookup, h.locate]

/-- There are the same directories. -/
theorem hasDirectory (h : fs.Reordered fs') (path : String) : fs'.hasDirectory path = fs.hasDirectory path := by
  simp only [Files.hasDirectory, h.lookup]

/-- The same modules are opened. -/
theorem readImage? (h : fs.Reordered fs') (path : String) : fs'.readImage? path = fs.readImage? path := by
  simp only [Files.readImage?, h.lookup]

end Reordered
end Files

namespace Path

/-- A path into a directory is the same text with each name behind it. -/
theorem toList_join (directory name : String) :
    ∃ front, (join directory name).toList = front ++ name.toList ∧
      ∀ other, (join directory other).toList = front ++ other.toList := by
  by_cases hd : directory.toList.getLast? = some '/'
  · exact ⟨directory.toList, by simp [join, hd], by simp [join, hd]⟩
  · exact ⟨directory.toList ++ ['/'], by simp [join, hd], by simp [join, hd]⟩

/-- Paths into one directory are ordered as the names are. -/
theorem join_le_join {a b : String} (directory : String) (h : a ≤ b) : join directory a ≤ join directory b := by
  obtain ⟨front, ha, hb⟩ := toList_join directory a
  change ¬ (join directory b).toList < (join directory a).toList
  rw [ha, hb]
  exact List.append_left_le h

end Path

namespace Host

/-- A file that is a module by its name. -/
def isModuleFile : String × FileNode → Bool
  | (name, node) => node != .directory && Path.extension? name == some "so"

/-- The module files of a directory, told in one line: its entries that are modules by their name, sorted by name. -/
theorem moduleFiles_eq (files : Files) (directory : String) :
    moduleFiles files directory =
      ((((files.children (Path.ofText directory).names).filter isModuleFile).map (·.1)).mergeSort
        fun a b => decide (a ≤ b)).map (Path.join directory) := by
  unfold moduleFiles
  refine congrArg (fun names : List String => (names.mergeSort fun a b => decide (a ≤ b)).map (Path.join directory)) ?_
  induction files.children (Path.ofText directory).names with
  | nil => rfl
  | cons entry rest ih =>
    obtain ⟨name, _ | content⟩ := entry
    · simpa [isModuleFile] using ih
    · by_cases hext : Path.extension? name = some "so" <;> simpa [isModuleFile, hext] using ih

/-- **The module files of a directory are listed by their paths**, each once for each entry.  Both together leave no
choice, so that the list is known from the directory alone. -/
theorem moduleFiles_spec (files : Files) (directory : String) :
    (moduleFiles files directory).Pairwise (· ≤ ·) ∧
      (moduleFiles files directory).Perm
        (((files.children (Path.ofText directory).names).filter isModuleFile).map (Path.join directory ·.1)) := by
  rw [moduleFiles_eq]
  constructor
  · have hsorted : ((((files.children (Path.ofText directory).names).filter isModuleFile).map (·.1)).mergeSort
        fun a b => decide (a ≤ b)).Pairwise fun a b => decide (a ≤ b) = true := by
      refine List.pairwise_mergeSort (fun a b c hab hbc => ?_) (fun a b => ?_) _
      · exact decide_eq_true (String.le_trans (of_decide_eq_true hab) (of_decide_eq_true hbc))
      · simpa using String.le_total a b
    exact List.pairwise_map.2 (hsorted.imp fun hab => Path.join_le_join directory (of_decide_eq_true hab))
  · have hperm := List.mergeSort_perm (((files.children (Path.ofText directory).names).filter isModuleFile).map (·.1))
      fun a b => decide (a ≤ b)
    simpa [Function.comp_def] using hperm.map (Path.join directory)

/-- **The order in which a directory gives its entries has no part in the modules that are found**, nor in theirs.
Sorted lists of the same entries are the same. -/
theorem moduleFiles_reordered {files files' : Files} (h : files.Reordered files') (directory : String) :
    moduleFiles files' directory = moduleFiles files directory := by
  obtain ⟨hs, hp⟩ := moduleFiles_spec files directory
  obtain ⟨hs', hp'⟩ := moduleFiles_spec files' directory
  have hpaths : (moduleFiles files' directory).Perm (moduleFiles files directory) :=
    (hp'.trans (((h.children _).filter _).map _)).trans hp.symm
  exact hpaths.eq_of_pairwise (fun a b _ _ hab hba => String.le_antisymm hab hba) hs' hs

end Host
end Calibration
