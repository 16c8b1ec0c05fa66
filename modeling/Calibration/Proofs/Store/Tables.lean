/-
# Names of dicts

A dict stays at its reference for good; a table says which reference has a name.  Each operation of the store is told
here by what it does to both: who asks for a name is provided with a dict (`provides_newDict`), a name is forgotten and
its dict stays (`forgets_clearDict`), entries are copied into one dict and nothing else changes (`copies_copyInto`).
All of it rests on one invariant, `Named`: in a table no name stands twice, and no dict has two names.
-/

import Calibration.Proofs.Assoc.Writes
import Calibration.Store
import Mathlib.Tactic.SplitIfs

namespace Calibration
namespace Store

variable {s : Store} {t u : TableRef} {r q : DictRef} {name target : String} {d : Dict}

/-! ### Dicts at their references -/

/-- A dict that is set stands at its reference. -/
theorem dict_setDict (hr : r < s.dicts.length) (d : Dict) : (s.setDict r d).dict r = d := by
  rw [dict, setDict, List.getElem?_set_self hr, Option.getD_some]

/-- The dicts at other references stay. -/
theorem dict_setDict_of_ne (h : q ≠ r) (d : Dict) : (s.setDict r d).dict q = s.dict q := by
  rw [dict, dict, setDict, List.getElem?_set_ne (Ne.symm h)]

/-- Of two dicts set at one reference the second one stays. -/
theorem setDict_setDict (d d' : Dict) : (s.setDict r d).setDict r d' = s.setDict r d' := by
  rw [setDict, setDict, setDict, List.set_set]

/-- A dict that is set where it stands changes nothing. -/
theorem setDict_dict (hr : r < s.dicts.length) : s.setDict r (s.dict r) = s := by
  rw [setDict, dict, List.getElem?_eq_getElem hr, Option.getD_some, List.set_getElem_self]

@[simp] theorem length_setDict (r : DictRef) (d : Dict) : (s.setDict r d).dicts.length = s.dicts.length :=
  List.length_set ..

/-! ### Tables -/

/-- A name is not found exactly if its table does not have it. -/
theorem find?_eq_none_iff : s.find? t name = none ↔ name ∉ s.names t := by
  rw [names, ← Assoc.isSome_find?_iff, Option.not_isSome_iff_eq_none, find?]

/-- A table that is replaced, whatever becomes of the dicts. -/
theorem table_set (ht : t < s.tables.length) (dicts : List Dict) (table : DictTable) (u : TableRef) :
    ({ s with dicts, tables := s.tables.set t table } : Store).table u = if u = t then table else s.table u := by
  simp only [Store.table]
  split_ifs with hu
  · rw [hu, List.getElem?_set_self ht, Option.getD_some]
  · rw [List.getElem?_set_ne (Ne.symm hu)]

/-- What holds of the names in a store: none stands twice in its table, each leads to a dict that is there, and no dict
has two. -/
structure Named (s : Store) : Prop where
  nodup : ∀ t, (s.names t).Nodup
  lt : ∀ t name r, s.find? t name = some r → r < s.dicts.length
  unique : ∀ t name u other r, s.find? t name = some r → s.find? u other = some r → t = u ∧ name = other

/-- Where no table has a name, nothing can be wrong with names. -/
theorem named_of_names_eq_nil (h : ∀ t, s.names t = []) : s.Named := by
  have hnone : ∀ t name, s.find? t name = none := fun t name => find?_eq_none_iff.2 (by rw [h]; exact List.not_mem_nil)
  refine ⟨fun t => h t ▸ List.nodup_nil, fun t name r hr => ?_, fun t name u other r hr => ?_⟩
  · exact nomatch (hnone t name).symm.trans hr
  · exact nomatch (hnone t name).symm.trans hr

/-- What a table is hangs on the tables only. -/
theorem table_of_tables_eq {s' : Store} (h : s'.tables = s.tables) (t : TableRef) : s'.table t = s.table t := by
  rw [table, table, h]

/-- So does what a name leads to. -/
theorem find?_of_tables_eq {s' : Store} (h : s'.tables = s.tables) (t : TableRef) (name : String) :
    s'.find? t name = s.find? t name := by
  rw [find?, find?, table_of_tables_eq h]

/-- The invariant does not hang on what stands in the dicts, as long as there are as many. -/
theorem Named.congr {s' : Store} (h : s.Named) (htables : s'.tables = s.tables)
    (hlength : s.dicts.length ≤ s'.dicts.length) : s'.Named := by
  constructor
  · intro t
    rw [names, table_of_tables_eq htables]
    exact h.nodup t
  · intro t name r hr
    rw [find?_of_tables_eq htables] at hr
    exact Nat.lt_of_lt_of_le (h.lt t name r hr) hlength
  · intro t name u other r hr hr'
    rw [find?_of_tables_eq htables] at hr hr'
    exact h.unique t name u other r hr hr'

/-! ### Asking for a dict -/

/-- Who asks a table for a name is provided with a dict: the one that has the name, and then nothing changes, or else a
new one that is empty, reads items in the scope of the table, and stands last. -/
structure Provides (t : TableRef) (name : String) (s : Store) (r : DictRef) (s' : Store) : Prop where
  present : ∀ q, s.find? t name = some q → r = q ∧ s' = s
  absent : s.find? t name = none → r = s.dicts.length ∧ s'.dicts = s.dicts ++ [{ scope := (s.table t).scope }] ∧
    s'.names t = s.names t ++ [name]
  found : s'.find? t name = some r
  others : ∀ u other, ¬ (u = t ∧ other = name) → s'.find? u other = s.find? u other
  tables : ∀ u, u ≠ t → s'.table u = s.table u
  scope : (s'.table t).scope = (s.table t).scope
  length : s'.tables.length = s.tables.length
  files : s'.files = s.files

/-- A name that is there is given its dict, and nothing changes. -/
theorem newDict_of_find? (h : s.find? t name = some r) : s.newDict t name = (r, s) := by
  rw [newDict, h]

/-- **Who asks for a name is provided with a dict**, the old one or a new one.  No other name and no other table is
touched. -/
theorem provides_newDict (ht : t < s.tables.length) (name : String) :
    Provides t name s (s.newDict t name).1 (s.newDict t name).2 := by
  cases hfind : s.find? t name with
  | some r =>
    rw [newDict_of_find? hfind]
    refine ⟨fun q hq => ?_, fun h => ?_, hfind, fun _ _ _ => rfl, fun _ _ => rfl, rfl, rfl, rfl⟩
    · exact ⟨Option.some.inj (hfind.symm.trans hq), rfl⟩
    · exact nomatch hfind.symm.trans h
  | none =>
    let table : DictTable := { s.table t with names := (s.table t).names ++ [(name, s.dicts.length)] }
    let s' : Store := { s with dicts := s.dicts ++ [{ scope := (s.table t).scope }], tables := s.tables.set t table }
    have hnew : s.newDict t name = (s.dicts.length, s') := by rw [newDict, hfind]
    have htable : ∀ u, s'.table u = if u = t then table else s.table u := table_set ht _ table
    have hown : s'.table t = table := (htable t).trans (if_pos rfl)
    have hfound : ∀ other, s'.find? t other =
        (s.find? t other).or (if name = other then some s.dicts.length else none) := fun other => by
      rw [find?, hown]
      exact Assoc.find?_append ..
    rw [hnew]
    refine ⟨fun q hq => ?_, fun _ => ⟨rfl, rfl, ?_⟩, ?_, fun u other hne => ?_, fun u hu => ?_, ?_, ?_, rfl⟩
    · exact nomatch hfind.symm.trans hq
    · rw [names, hown]
      exact List.map_append
    · rw [hfound, hfind, if_pos rfl]
      rfl
    · by_cases hu : u = t
      · subst hu
        rw [hfound, if_neg fun h => hne ⟨rfl, h.symm⟩, Option.or_none]
      · rw [find?, htable, if_neg hu]
        rfl
    · exact (htable u).trans (if_neg hu)
    · rw [hown]
    · exact List.length_set ..

namespace Provides

variable {s' : Store}

/-- The dicts that were there are as they were. -/
theorem dict_eq (h : Provides t name s r s') (hq : q < s.dicts.length) : s'.dict q = s.dict q := by
  cases hfind : s.find? t name with
  | some p => rw [(h.present p hfind).2]
  | none => rw [dict, dict, (h.absent hfind).2.1, List.getElem?_append_left hq]

/-- No dict goes away. -/
theorem length_le (h : Provides t name s r s') : s.dicts.length ≤ s'.dicts.length := by
  cases hfind : s.find? t name with
  | some p => exact Nat.le_of_eq (by rw [(h.present p hfind).2])
  | none =>
    rw [(h.absent hfind).2.1, List.length_append]
    exact Nat.le_add_right ..

/-- The dict that is given is there. -/
theorem lt (h : Provides t name s r s') (hs : s.Named) : r < s'.dicts.length := by
  cases hfind : s.find? t name with
  | some p =>
    obtain ⟨rfl, rfl⟩ := h.present p hfind
    exact hs.lt t name r hfind
  | none =>
    obtain ⟨rfl, hdicts, -⟩ := h.absent hfind
    rw [hdicts, List.length_append, List.length_singleton]
    exact Nat.lt_succ_self _

/-- Whoever is found was found before, or is the new dict. -/
theorem find?_cases (h : Provides t name s r s') {other : String} (hq : s'.find? u other = some q) :
    s.find? u other = some q ∨ (q = s.dicts.length ∧ u = t ∧ other = name) := by
  by_cases hsame : u = t ∧ other = name
  · obtain ⟨rfl, rfl⟩ := hsame
    obtain rfl : r = q := Option.some.inj (h.found.symm.trans hq)
    cases hfind : s.find? u other with
    | some p => exact .inl (by rw [(h.present p hfind).1])
    | none => exact .inr ⟨(h.absent hfind).1, rfl, rfl⟩
  · exact .inl (h.others u other hsame ▸ hq)

/-- Names stay in order when somebody asks for a dict. -/
theorem named (h : Provides t name s r s') (hs : s.Named) : s'.Named := by
  constructor
  · intro u
    by_cases hu : u = t
    · subst hu
      cases hfind : s.find? u name with
      | some p => rw [(h.present p hfind).2]; exact hs.nodup u
      | none =>
        rw [(h.absent hfind).2.2, List.nodup_append]
        refine ⟨hs.nodup u, List.nodup_cons.2 ⟨List.not_mem_nil, List.nodup_nil⟩, ?_⟩
        rintro other hother _ hname rfl
        exact find?_eq_none_iff.1 hfind (List.mem_singleton.1 hname ▸ hother)
    · rw [names, h.tables u hu]
      exact hs.nodup u
  · intro u other q hq
    rcases h.find?_cases hq with hold | ⟨-, rfl, rfl⟩
    · exact Nat.lt_of_lt_of_le (hs.lt u other q hold) h.length_le
    · rw [← Option.some.inj (h.found.symm.trans hq)]
      exact h.lt hs
  · intro u other v other' q hq hq'
    rcases h.find?_cases hq with hold | ⟨rfl, rfl, rfl⟩ <;> rcases h.find?_cases hq' with hold' | ⟨hnew, rfl, rfl⟩
    · exact hs.unique u other v other' q hold hold'
    · exact absurd (hs.lt u other q hold) (hnew ▸ Nat.lt_irrefl _)
    · exact absurd (hs.lt v other' _ hold') (Nat.lt_irrefl _)
    · exact ⟨rfl, rfl⟩

end Provides

/-! ### Forgetting a name -/

/-- A table forgets a name: it tells whether it had it, and the dict stays where it is. -/
structure Forgets (t : TableRef) (name : String) (s : Store) (had : Bool) (s' : Store) : Prop where
  answer : had = decide (name ∈ s.names t)
  names : s'.names t = (s.names t).erase name
  missing : s'.find? t name = none
  others : ∀ u other, ¬ (u = t ∧ other = name) → s'.find? u other = s.find? u other
  tables : ∀ u, u ≠ t → s'.table u = s.table u
  scope : (s'.table t).scope = (s.table t).scope
  length : s'.tables.length = s.tables.length
  dicts : s'.dicts = s.dicts
  files : s'.files = s.files

/-- **A name is forgotten, and its dict stays.**  Whoever holds the reference goes on using it. -/
theorem forgets_clearDict (hs : s.Named) (ht : t < s.tables.length) (name : String) :
    Forgets t name s (s.clearDict t name).1 (s.clearDict t name).2 := by
  have hhas : (s.table t).names.has name = decide (name ∈ s.names t) := by
    rw [Bool.eq_iff_iff, decide_eq_true_iff]
    exact Assoc.isSome_find?_iff _
  by_cases hname : name ∈ s.names t
  · let table : DictTable := { s.table t with names := (s.table t).names.erase name }
    let s' : Store := { s with tables := s.tables.set t table }
    have hclear : s.clearDict t name = (true, s') := if_pos (hhas.trans (decide_eq_true hname))
    have htable : ∀ u, s'.table u = if u = t then table else s.table u := table_set ht _ table
    have hown : s'.table t = table := (htable t).trans (if_pos rfl)
    have hfound : ∀ other, s'.find? t other = if name = other then none else s.find? t other := fun other => by
      rw [find?, hown]
      exact Assoc.find?_erase _ (hs.nodup t) name other
    rw [hclear]
    refine ⟨(decide_eq_true hname).symm, ?_, ?_, fun u other hne => ?_, fun u hu => ?_, ?_, List.length_set .., rfl,
      rfl⟩
    · rw [Store.names, hown]
      exact Assoc.keys_erase _ name
    · exact (hfound name).trans (if_pos rfl)
    · by_cases hu : u = t
      · subst hu
        exact (hfound other).trans (if_neg fun h => hne ⟨rfl, h.symm⟩)
      · rw [find?, htable, if_neg hu]
        rfl
    · exact (htable u).trans (if_neg hu)
    · rw [hown]
  · have hclear : s.clearDict t name = (false, s) := if_neg (by rw [hhas]; simpa using hname)
    rw [hclear]
    refine ⟨(decide_eq_false hname).symm, (List.erase_of_not_mem hname).symm, find?_eq_none_iff.2 hname, ?_, ?_, ?_, ?_,
      rfl, rfl⟩ <;> intros <;> rfl

namespace Forgets

variable {s' : Store} {had : Bool}

/-- A name that is found afterwards was found before. -/
theorem find?_of_find? (h : Forgets t name s had s') {other : String} (hq : s'.find? u other = some q) :
    s.find? u other = some q := by
  by_cases hsame : u = t ∧ other = name
  · obtain ⟨rfl, rfl⟩ := hsame
    exact nomatch h.missing.symm.trans hq
  · exact h.others u other hsame ▸ hq

/-- Names stay in order when one is forgotten. -/
theorem named (h : Forgets t name s had s') (hs : s.Named) : s'.Named := by
  refine ⟨fun u => ?_, fun u other q hq => ?_, fun u other v other' q hq hq' => ?_⟩
  · by_cases hu : u = t
    · subst hu
      rw [h.names]
      exact (hs.nodup u).erase name
    · rw [Store.names, h.tables u hu]
      exact hs.nodup u
  · rw [h.dicts]
    exact hs.lt u other q (h.find?_of_find? hq)
  · exact hs.unique u other v other' q (h.find?_of_find? hq) (h.find?_of_find? hq')

end Forgets

/-! ### Copying -/

end Store

/-- Entries of a dict are copied into another one: at each key that was asked for and that the source has stands what
stands there in the source, all else is as it was; keys that were there keep their places, and new ones follow, in the
order in which they are asked for first. -/
structure Dict.Copied (keys : List String) (source before after : Dict) : Prop where
  get? : ∀ key, after.get? key = if key ∈ keys ∧ key ∈ source.keys then source.get? key else before.get? key
  keys : after.keys =
    before.keys ++ ((keys.filter (· ∈ source.keys)).filter (· ∉ before.keys)).eraseDups
  scope : after.scope = before.scope

/-- **What a row of copies makes of a dict** is what `Dict.Copied` says.  Keys that the source lacks are passed over.
-/
theorem Dict.copied_copyFrom (keys : List String) (source before : Dict) :
    Dict.Copied keys source before { before with entries := before.entries.copyFrom source.entries keys } where
  get? key := by
    refine (Assoc.find?_copyFrom before.entries source.entries keys key).trans ?_
    have hkey : key ∈ source.keys ↔ (source.entries.find? key).isSome := (Assoc.isSome_find?_iff source.entries).symm
    by_cases hmem : key ∈ keys
    · by_cases hsource : key ∈ source.keys
      · obtain ⟨item, hitem⟩ := Option.isSome_iff_exists.1 (hkey.1 hsource)
        rw [if_pos hmem, if_pos ⟨hmem, hsource⟩, hitem, Dict.get?, hitem, Option.some_or]
      · have hnone := Option.not_isSome_iff_eq_none.1 (mt hkey.2 hsource)
        rw [if_pos hmem, if_neg fun h => hsource h.2, hnone, Option.none_or]
        rfl
    · rw [if_neg hmem, if_neg fun h => hmem h.1, Option.none_or]
      rfl
  keys := Assoc.keys_copyFrom before.entries source.entries keys
  scope := rfl

namespace Store

/-- Entries of a dict are copied into the dict with a name, which is made if there is none.  A dict is not copied into
itself.  Otherwise those keys are counted that were there to copy, as often as they were asked for. -/
structure Copies (source : DictRef) (t : TableRef) (target : String) (keys : List String) (s : Store) (count : Nat)
    (r : DictRef) (s' : Store) : Prop where
  found : s'.find? t target = some r
  same : r = source → count = 0 ∧ s' = s
  counted : r ≠ source → count = keys.countP (· ∈ (s.dict source).keys)
  copied : r ≠ source → Dict.Copied keys (s.dict source) ((s.newDict t target).2.dict r) (s'.dict r)
  others : ∀ q, q < s.dicts.length → q ≠ r → s'.dict q = s.dict q
  tables : s'.tables = (s.newDict t target).2.tables
  length : s'.dicts.length = (s.newDict t target).2.dicts.length
  files : s'.files = s.files

/-- **Copying changes the target only**, and makes it if it has to.  The target may be the source itself. -/
theorem copies_copyInto (hs : s.Named) (ht : t < s.tables.length) {source : DictRef} (hsource : source < s.dicts.length)
    (target : String) (keys : List String) :
    Copies source t target keys s (s.copyInto source t target keys).1 (s.newDict t target).1
      (s.copyInto source t target keys).2 := by
  have hp := provides_newDict ht target
  have hdict := hp.dict_eq hsource
  have hlt := hp.lt hs
  rcases hnew : s.newDict t target with ⟨r, made⟩
  rw [hnew] at hp hdict hlt
  by_cases hsame : source = r
  · -- A dict that was there before is not new.
    have hself : made = s := by
      cases hfind : s.find? t target with
      | some p => exact (hp.present p hfind).2
      | none => exact absurd hsource (hsame.trans (hp.absent hfind).1 ▸ Nat.lt_irrefl _)
    have hcopy : s.copyInto source t target keys = (0, made) := by
      rw [copyInto, hnew]
      exact if_pos hsame
    rw [hcopy]
    refine ⟨hp.found, fun _ => ⟨rfl, hself⟩, fun h => absurd hsame.symm h, fun h => absurd hsame.symm h,
      fun q hq _ => hp.dict_eq hq, ?_, ?_, hp.files⟩ <;> rw [hnew]
  · let entries := (made.dict source).entries
    let copy (d : Dict) : Dict := { d with entries := d.entries.copyFrom entries keys }
    have hcopy : s.copyInto source t target keys =
        ((keys.filter entries.has).length, made.setDict r (copy (made.dict r))) := by
      rw [copyInto, hnew]
      exact if_neg hsame
    have hhas : ∀ key, entries.has key = decide (key ∈ (s.dict source).keys) := fun key => by
      rw [← hdict, Bool.eq_iff_iff, decide_eq_true_iff]
      exact Assoc.isSome_find?_iff _
    rw [hcopy]
    refine ⟨hp.found, fun h => absurd h.symm hsame, fun _ => ?_, fun _ => ?_, fun q hq hne => ?_, ?_, ?_, hp.files⟩
    · rw [List.countP_eq_length_filter]
      exact congrArg List.length (List.filter_congr fun key _ => hhas key)
    · rw [hnew, dict_setDict hlt, ← hdict]
      exact Dict.copied_copyFrom keys (made.dict source) (made.dict r)
    · rw [dict_setDict_of_ne hne]
      exact hp.dict_eq hq
    · rw [hnew]
      rfl
    · rw [hnew]
      exact length_setDict ..

/-- Names stay in order when entries are copied, also into a new dict. -/
theorem Copies.named {s' : Store} {source : DictRef} {keys : List String} {count : Nat}
    (h : Copies source t target keys s count r s') (hs : s.Named) (ht : t < s.tables.length) : s'.Named :=
  ((provides_newDict ht target).named hs).congr h.tables (Nat.le_of_eq h.length.symm)

/-- Of the keys that are asked for, one is there, and it is counted each time. -/
example : (copyInto
    { dicts := [{ entries := [("a", .int 1)] }, {}], tables := [{ names := [("x", 1)], scope := .builtin }] }
    0 0 "x" ["a", "b", "a"]).1 = 2 := rfl

end Store
end Calibration
