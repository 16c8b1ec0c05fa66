/-
# The store

What the plugins of a host share: dicts, the tables that give dicts their names, and files. A dict stays at its
reference for good. A table only forgets a name, so who still has the reference keeps using the dict, and a later
dict of that name is another one.
-/

import Calibration.Dict.Basic
import Calibration.Files.Tree

namespace Calibration

/-- The place of a dict in the store. -/
abbrev DictRef := Nat

/-- The place of a table in the store. -/
abbrev TableRef := Nat

/-- Names of dicts. New dicts read items in the table's scope. -/
structure DictTable where
  names : Assoc DictRef := []
  scope : TypeScope

instance : Inhabited DictTable := ⟨{ scope := .builtin }⟩

/-- Dicts, tables of their names, and files. -/
structure Store where
  dicts : List Dict := []
  tables : List DictTable := []
  files : Files := {}

namespace Store

def table (s : Store) (t : TableRef) : DictTable := s.tables[t]?.getD default

def dict (s : Store) (r : DictRef) : Dict := s.dicts[r]?.getD default

/-- Replaces the dict at a reference. -/
def setDict (s : Store) (r : DictRef) (d : Dict) : Store := { s with dicts := s.dicts.set r d }

/-- Changes the dict at a reference. -/
def modifyDict (s : Store) (r : DictRef) (f : Dict → Dict) : Store := s.setDict r (f (s.dict r))

/-- The dict with a name in a table. -/
def find? (s : Store) (t : TableRef) (name : String) : Option DictRef := (s.table t).names.find? name

/-- The names in a table, in order of creation. -/
def names (s : Store) (t : TableRef) : List String := (s.table t).names.keys

/-- The dict with a name in a table, made empty if there is none. -/
def newDict (s : Store) (t : TableRef) (name : String) : DictRef × Store :=
  match s.find? t name with
  | some r => (r, s)
  | none =>
    let table := s.table t
    let r := s.dicts.length
    (r, { s with
      dicts := s.dicts ++ [{ scope := table.scope }]
      tables := s.tables.set t { table with names := table.names ++ [(name, r)] } })

/-- Forgets a name; tells whether the table had it. -/
def clearDict (s : Store) (t : TableRef) (name : String) : Bool × Store :=
  let table := s.table t
  if table.names.has name then
    (true, { s with tables := s.tables.set t { table with names := table.names.erase name } })
  else (false, s)

/-- Copies entries of a dict into the dict with a name, made if there is none, and counts the keys that were
there to copy. A dict is not copied into itself. -/
def copyInto (s : Store) (source : DictRef) (t : TableRef) (target : String) (keys : List String) : Nat × Store :=
  let (r, s) := s.newDict t target
  if source = r then (0, s)
  else
    let entries := (s.dict source).entries
    ((keys.filter entries.has).length,
      s.modifyDict r fun d => { d with entries := d.entries.copyFrom entries keys })

end Store
end Calibration
