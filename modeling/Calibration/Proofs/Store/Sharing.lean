/-
# Sharing a store

Many share a store: they ask tables for dicts, forget names, copy entries, and write to the dicts whose references they
still have.  Whatever they have done, in whatever order, names are in order (`named_after`) and tables keep their scopes
(`scope_after`).  A dict whose name was forgotten is out of reach for good: no table ever leads to it again, and only
who has its reference changes it (`Forgotten.after`).
-/

import Calibration.Proofs.Store.Tables

namespace Calibration
namespace Store

/-- One use of a store with some tables.  A dict is written to, or copied from, at its reference. -/
inductive Use (n : Nat) where
  | newDict (t : Fin n) (name : String)
  | getDict (t : Fin n) (name : String)
  | clearDict (t : Fin n) (name : String)
  | copyInto (source : DictRef) (t : Fin n) (target : String) (keys : List String)
  | write (r : DictRef) (f : Dict → Dict)

/-- A store with tables that have no names yet, one for each scope, and some dicts that are in none of them. -/
def opened (scopes : List TypeScope) (loose : List Dict) (files : Files) : Store :=
  { dicts := loose, tables := scopes.map ({ scope := · }), files }

variable {n : Nat} {s : Store} {r : DictRef} {u : TableRef} {other : String}

/-- The store after a use.  Nobody has a reference to a dict that was not made. -/
def use (s : Store) : Use n → Store
  | .newDict t name => (s.newDict t name).2
  | .getDict _ _ => s
  | .clearDict t name => (s.clearDict t name).2
  | .copyInto source t target keys => if source < s.dicts.length then (s.copyInto source t target keys).2 else s
  | .write r f => s.modifyDict r f

/-- The store after some uses, one after the other. -/
def after (s : Store) (uses : List (Use n)) : Store := uses.foldl use s

/-! ### What a use keeps -/

/-- Each of the tables is there. -/
theorem lt_length_tables (ht : s.tables.length = n) (t : Fin n) : t < s.tables.length := Nat.lt_of_lt_of_eq t.2 ht.symm

/-- **Names stay in order**, whichever use is made of the store.  A new dict is put behind the old ones, so that no
two names lead to the same. -/
theorem Named.use (hs : s.Named) (ht : s.tables.length = n) (use : Use n) :
    (s.use use).Named ∧ (s.use use).tables.length = n := by
  cases use with
  | newDict t name =>
    have h := provides_newDict (lt_length_tables ht t) name
    exact ⟨h.named hs, h.length.trans ht⟩
  | getDict t name => exact ⟨hs, ht⟩
  | clearDict t name =>
    have h := forgets_clearDict hs (lt_length_tables ht t) name
    exact ⟨h.named hs, h.length.trans ht⟩
  | copyInto source t target keys =>
    rw [Store.use]
    split_ifs with hsource
    · have h := copies_copyInto hs (lt_length_tables ht t) hsource target keys
      refine ⟨h.named hs (lt_length_tables ht t), ?_⟩
      rw [h.tables]
      exact (provides_newDict (lt_length_tables ht t) target).length.trans ht
    · exact ⟨hs, ht⟩
  | write r f => exact ⟨hs.congr rfl (Nat.le_of_eq (length_setDict ..).symm), ht⟩

/-- No use changes which types the dicts of a table read. -/
theorem scope_use (hs : s.Named) (ht : s.tables.length = n) (use : Use n) (u : TableRef) :
    ((s.use use).table u).scope = (s.table u).scope := by
  have hprovides : ∀ (t : Fin n) name, ((s.newDict t name).2.table u).scope = (s.table u).scope := by
    intro t name
    have h := provides_newDict (lt_length_tables ht t) name
    by_cases hu : u = t
    · rw [hu, h.scope]
    · rw [h.tables u hu]
  cases use with
  | newDict t name => exact hprovides t name
  | getDict t name => rfl
  | clearDict t name =>
    have h := forgets_clearDict hs (lt_length_tables ht t) name
    rw [Store.use]
    by_cases hu : u = t
    · rw [hu, h.scope]
    · rw [h.tables u hu]
  | copyInto source t target keys =>
    rw [Store.use]
    split_ifs with hsource
    · rw [table_of_tables_eq (copies_copyInto hs (lt_length_tables ht t) hsource target keys).tables]
      exact hprovides t target
    · rfl
  | write r f => rfl

/-- The dict at a reference is there and has no name. -/
structure Forgotten (s : Store) (r : DictRef) : Prop where
  lt : r < s.dicts.length
  find?_ne : ∀ t name, s.find? t name ≠ some r

namespace Forgotten

/-- Who asks for a name never gets the dict. -/
theorem newDict_ne (h : s.Forgotten r) (t : TableRef) (name : String) : (s.newDict t name).1 ≠ r := by
  rw [newDict]
  split
  · rintro rfl
    exact h.find?_ne t name ‹_›
  · exact Nat.ne_of_gt h.lt

/-- A dict without a name has none after somebody has asked for a dict. -/
theorem provides {t : TableRef} {name : String} {q : DictRef} {s' : Store} (h : s.Forgotten r)
    (hp : Provides t name s q s') : s'.Forgotten r := by
  refine ⟨Nat.lt_of_lt_of_le h.lt hp.length_le, fun u other hr => ?_⟩
  rcases hp.find?_cases hr with hold | ⟨rfl, -, -⟩
  · exact h.find?_ne u other hold
  · exact Nat.lt_irrefl _ h.lt

/-- **A dict without a name gets none**, and stays as it is unless it is written to at its reference.  The cases are
those of the uses: only asking for a name makes names, and it makes them for new dicts. -/
theorem use (h : s.Forgotten r) (hs : s.Named) (ht : s.tables.length = n) (use : Use n) :
    (s.use use).Forgotten r ∧ ((∀ f, use ≠ .write r f) → (s.use use).dict r = s.dict r) := by
  cases use with
  | newDict t name =>
    have hp := provides_newDict (lt_length_tables ht t) name
    exact ⟨h.provides hp, fun _ => hp.dict_eq h.lt⟩
  | getDict t name => exact ⟨h, fun _ => rfl⟩
  | clearDict t name =>
    have hf := forgets_clearDict hs (lt_length_tables ht t) name
    refine ⟨⟨hf.dicts ▸ h.lt, fun u other hr => h.find?_ne u other (hf.find?_of_find? hr)⟩, fun _ => ?_⟩
    rw [dict, dict]
    exact congrArg (fun dicts => (dicts[r]?).getD default) hf.dicts
  | copyInto source t target keys =>
    rw [Store.use]
    split_ifs with hsource
    · have hp := provides_newDict (lt_length_tables ht t) target
      have hc := copies_copyInto hs (lt_length_tables ht t) hsource target keys
      have hmade := h.provides hp
      refine ⟨⟨hc.length ▸ hmade.lt, fun u other hr => ?_⟩, fun _ => ?_⟩
      · rw [find?_of_tables_eq hc.tables] at hr
        exact hmade.find?_ne u other hr
      · exact hc.others r h.lt (h.newDict_ne t target).symm
    · exact ⟨h, fun _ => rfl⟩
  | write q f =>
    refine ⟨⟨(length_setDict (s := s) q _).symm ▸ h.lt, h.find?_ne⟩, fun hne => ?_⟩
    have hr : r ≠ q := by
      rintro rfl
      exact hne f rfl
    exact dict_setDict_of_ne hr _

end Forgotten

/-! ### Whole histories -/

/-- **Names are in order after any uses.**  This is the invariant that all that follows on sharing rests on. -/
theorem Named.after (hs : s.Named) (ht : s.tables.length = n) (uses : List (Use n)) :
    (s.after uses).Named ∧ (s.after uses).tables.length = n := by
  induction uses generalizing s with
  | nil => exact ⟨hs, ht⟩
  | cons use uses ih => exact ih (hs.use ht use).1 (hs.use ht use).2

/-- **Tables keep their scopes.**  Names come and go, and the types that their dicts read stay the same. -/
theorem scope_after (hs : s.Named) (ht : s.tables.length = n) (uses : List (Use n)) (u : TableRef) :
    ((s.after uses).table u).scope = (s.table u).scope := by
  induction uses generalizing s with
  | nil => rfl
  | cons use uses ih => exact (ih (hs.use ht use).1 (hs.use ht use).2).trans (scope_use hs ht use u)

/-- **A dict without a name is out of reach for good**, by induction over the uses.  Only who has kept the reference
writes to it, and a name that is taken up again leads to a new dict. -/
theorem Forgotten.after (h : s.Forgotten r) (hs : s.Named) (ht : s.tables.length = n) (uses : List (Use n)) :
    (s.after uses).Forgotten r ∧ ((∀ f, .write r f ∉ uses) → (s.after uses).dict r = s.dict r) := by
  induction uses generalizing s with
  | nil => exact ⟨h, fun _ => rfl⟩
  | cons use uses ih =>
    obtain ⟨hstep, hdict⟩ := h.use hs ht use
    obtain ⟨hrest, hdicts⟩ := ih hstep (hs.use ht use).1 (hs.use ht use).2
    refine ⟨hrest, fun hnot => ?_⟩
    refine (hdicts fun f hf => hnot f (List.mem_cons_of_mem _ hf)).trans (hdict ?_)
    rintro f rfl
    exact hnot f List.mem_cons_self

/-- The dict of a name that is forgotten has no name any more. -/
theorem forgotten_of_forgets {t : TableRef} {name : String} {had : Bool} {s' : Store} (hs : s.Named)
    (h : Forgets t name s had s') (hr : s.find? t name = some r) : s'.Forgotten r := by
  refine ⟨h.dicts ▸ hs.lt t name r hr, fun u other hr' => ?_⟩
  obtain ⟨rfl, rfl⟩ := hs.unique u other t name r (h.find?_of_find? hr') hr
  exact nomatch h.missing.symm.trans hr'

/-- In a new store names are in order. -/
theorem named_opened (scopes : List TypeScope) (loose : List Dict) (files : Files) :
    (opened scopes loose files).Named := by
  refine named_of_names_eq_nil fun t => ?_
  rw [names, table, opened, List.getElem?_map]
  cases scopes[t]? <;> rfl

/-- A new store has a table for each scope. -/
theorem length_tables_opened (scopes : List TypeScope) (loose : List Dict) (files : Files) :
    (opened scopes loose files).tables.length = scopes.length :=
  List.length_map ..

/-- Each table has its scope. -/
theorem scope_opened {scopes : List TypeScope} (loose : List Dict) (files : Files) (t : Fin scopes.length) :
    ((opened scopes loose files).table t).scope = scopes.get t := by
  rw [table, opened, List.getElem?_map, List.getElem?_eq_getElem t.2]
  rfl

end Store
end Calibration
