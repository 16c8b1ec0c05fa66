/-
# A saved text is read back

A text is saved only at a place that the names lead to, with no directory there.  A node put at a place changes nothing
at the others (`node?_put`), so that the names still lead there (`locate_put`), and the text is read back
(`readText_save`).
-/

import Calibration.Files.Tree
import Calibration.Proofs.Outcome
import Mathlib.Tactic.SplitIfs

namespace Calibration
namespace Files

variable {fs fs' : Files} {parts : List String} {node : FileNode}

/-- **A node put at a place** changes nothing at the others.  Places are compared by their names, part by part. -/
theorem node?_put (hparts : parts ≠ []) (other : List String) :
    (fs.put parts node).node? other = if other = parts then some node else fs.node? other := by
  by_cases htop : other = []
  · rw [node?, node?, if_pos htop, if_pos htop, if_neg fun h => hparts (h.symm.trans htop)]
  rw [node?, node?, if_neg htop, if_neg htop, put]
  have hkey : ∀ entry, fs.nodes.find? (·.1 = other) = some entry → entry.1 = other :=
    fun entry h => by simpa using List.find?_some h
  by_cases hany : fs.nodes.any (·.1 = parts)
  · rw [if_pos hany]
    have hfind : (fs.nodes.map fun entry => if entry.1 = parts then (parts, node) else entry).find? (·.1 = other) =
        (fs.nodes.find? (·.1 = other)).map fun entry => if entry.1 = parts then (parts, node) else entry := by
      rw [List.find?_map]
      congr 2
      funext entry
      simp only [Function.comp]
      split_ifs with hentry
      · rw [hentry]
      · rfl
    simp only [hfind]
    split_ifs with hother
    · obtain ⟨entry, hentry⟩ := Option.isSome_iff_exists.1 (List.find?_isSome.2 (hother ▸ List.any_eq_true.1 hany))
      rw [hentry, Option.map_some, Option.map_some, if_pos ((hkey _ hentry).trans hother)]
    · cases hentry : fs.nodes.find? (·.1 = other) with
      | none => rfl
      | some entry =>
        rw [Option.map_some, Option.map_some, Option.map_some, if_neg fun h => hother ((hkey _ hentry).symm.trans h)]
  · rw [if_neg hany, List.find?_append]
    split_ifs with hother
    · have hnone : fs.nodes.find? (·.1 = other) = none := by
        rw [List.find?_eq_none]
        exact fun entry hmem h => hany (List.any_eq_true.2 ⟨entry, hmem, hother ▸ h⟩)
      rw [hnone, hother]
      simp
    · cases hentry : fs.nodes.find? (·.1 = other) with
      | none => simp [Ne.symm hother]
      | some entry => rfl

/-- A node put at a place changes nothing at the children of other places. -/
theorem child_put_of_ne (hparts : parts ≠ []) {done : List String} {name : String} (h : done ++ [name] ≠ parts) :
    (fs.put parts node).child done name = fs.child done name := by
  rw [child, child, node?_put hparts, if_neg h]

/-- **A node put at a place is found there**, if the names led there before.  The directories on the way are still
what they were. -/
theorem locate_put (node : FileNode) {done names : List String} {found : Option FileNode} (hnames : names ≠ [])
    (h : fs.locate done names = .ok found) :
    (fs.put (done ++ names) node).locate done names = .ok (some node) := by
  have hparts : done ++ names ≠ [] := fun h => hnames (List.append_eq_nil_iff.1 h).2
  fun_induction fs.locate done names with
  | case1 done => exact absurd rfl hnames
  | case2 done name =>
    rw [child] at h
    split_ifs at h with hlong
    rw [locate, child, if_neg hlong, node?_put hparts, if_pos rfl]
  | case3 done name rest hne e heq => exact nomatch h
  | case4 done name rest hne heq => exact nomatch h
  | case5 done name rest hne content heq => exact nomatch h
  | case6 done name rest hne heq ih =>
    have hshort : done ++ [name] ≠ done ++ name :: rest := by
      intro h
      exact hne (List.cons.inj (List.append_cancel_left h)).2.symm
    have hsplit : done ++ name :: rest = done ++ [name] ++ rest := by rw [List.append_assoc]; rfl
    rw [locate, child_put_of_ne hparts hshort, heq]
    · rw [hsplit] at hparts ⊢
      exact ih hne h hparts
    · exact hne

/-- What no directory must stand at has a name. -/
theorem names_ne_nil {p : Path} (h : p.directoryOnly = false) : p.names ≠ [] := by
  rw [Path.directoryOnly] at h
  cases hlast : p.pieces.getLast? with
  | none =>
    rw [hlast] at h
    exact nomatch h
  | some piece =>
    rw [hlast] at h
    refine List.ne_nil_of_mem (List.mem_filter.2 ⟨List.mem_of_getLast? hlast, ?_⟩)
    rw [Bool.not_eq_true']
    exact h

/-- **A text that is written is read back**: the names lead to the same place afterwards, and there it stands.  What
stood there before has no part in it. -/
theorem readText_write {path text : String} (h : fs.write (.ofText path) (.text text) = .ok fs') :
    fs'.readText path = .ok text := by
  simp only [write, bind_eq_ok_iff] at h
  obtain ⟨⟨⟩, hcheck, _, -, h⟩ := h
  split_ifs at h with honly
  · exact nomatch h
  · obtain ⟨found, hfound, h⟩ := bind_eq_ok_iff.1 h
    obtain ⟨-, -, hfound⟩ := bind_eq_ok_iff.1 hfound
    obtain ⟨below, hbelow, -⟩ := bind_eq_ok_iff.1 hfound
    have hput := locate_put (.file (.text text)) (names_ne_nil (Bool.eq_false_iff.2 honly)) hbelow
    have hlookup : (fs.put (Path.ofText path).names (.file (.text text))).lookup (.ofText path) =
        .ok (some (.file (.text text))) :=
      bind_eq_ok_iff.2 ⟨(), hcheck, bind_eq_ok_iff.2 ⟨_, hput, if_neg honly⟩⟩
    have hread : (fs.put (Path.ofText path).names (.file (.text text))).readText path = .ok text :=
      bind_eq_ok_iff.2 ⟨_, hlookup, rfl⟩
    split at h
    · exact nomatch h
    · rw [← Except.ok.inj h]
      exact hread

/-- **A text that is saved is read back.**  Saving makes the directories on the way first, and these are not in its
way. -/
theorem readText_save {path text : String} (h : fs.save path text = (.ok (), fs')) : fs'.readText path = .ok text := by
  rw [save] at h
  split at h
  · exact nomatch h
  · split at h
    · exact nomatch h
    · next heq =>
      obtain ⟨-, rfl⟩ := Prod.mk.inj h
      exact readText_write heq

end Files
end Calibration
