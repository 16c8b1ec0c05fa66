/-
# TOML documents as trees

A document is a table of values under keys. How a table came about decides whether later lines may add to it: a
table that only headers of its own tables imply may still get a header, one made by dotted keys takes more dotted
keys, and a table that is a value is finished.
-/

import Calibration.Assoc

namespace Calibration
namespace Toml

/-- How a table came about: written as a value, named by a header, implied by a longer header, or made by dotted
keys. -/
inductive TableKind where
  | inline
  | header
  | implied
  | dotted
deriving DecidableEq, Repr

/-- A value. What a number with a fraction or a point in time is does not matter here. -/
inductive Node where
  | string (value : String)
  | integer (value : Int)
  | float
  | boolean (value : Bool)
  | time
  | array (values : List Node)
  | table (kind : TableKind) (entries : List (String × Node))
  /-- The tables that headers in double brackets have named. -/
  | tables (rows : List (List (String × Node)))

instance : Inhabited Node := ⟨.float⟩

/-- Changes the table that a path leads to; tables that are missing on the way are made. Dotted keys lead through
no table that has a header, and nothing leads through a value. -/
def descend (isDotted : Bool) (change : TableKind → Assoc Node → Option (Assoc Node)) (kind : TableKind)
    (entries : Assoc Node) : List String → Option (Assoc Node)
  | [] => change kind entries
  | key :: path =>
    match entries.find? key with
    | none =>
      let kind : TableKind := if isDotted then .dotted else .implied
      (descend isDotted change kind [] path).map fun es => entries.set key (.table kind es)
    | some (.table .inline _) => none
    | some (.table .header es) =>
      if isDotted then none
      else (descend isDotted change .header es path).map fun es => entries.set key (.table .header es)
    | some (.table kind es) =>
      (descend isDotted change kind es path).map fun es => entries.set key (.table kind es)
    | some (.tables rows) =>
      match rows.getLast? with
      | none => none
      | some last =>
        (descend isDotted change .header last path).map fun es => entries.set key (.tables (rows.dropLast ++ [es]))
    | some _ => none

/-- A key and its value; the key is a path of one or more names. -/
structure Assignment where
  path : List String
  key : String
  value : Node

/-- Adds a value under a key of its own. A key with dots adds to a table that dots have made, any other key to the
table at hand. -/
def assign (kind : TableKind) (entries : Assoc Node) (a : Assignment) : Option (Assoc Node) :=
  descend true (fun kind es =>
    if (kind = .dotted) = a.path.isEmpty ∨ es.has a.key then none else some (es ++ [(a.key, a.value)]))
    kind entries a.path

/-- Adds values one after the other. -/
def assignAll (kind : TableKind) (entries : Assoc Node) (as : List Assignment) : Option (Assoc Node) :=
  as.foldlM (assign kind) entries

/-- A header with the assignments below it. -/
structure Section where
  isRow : Bool
  path : List String
  key : String
  body : List Assignment

/-- Adds a section. A header names a table once; a header in double brackets adds a row. -/
def addSection (entries : Assoc Node) (s : Section) : Option (Assoc Node) :=
  descend false (fun _ es =>
    match s.isRow, es.find? s.key with
    | false, none => (assignAll .header [] s.body).map fun t => es.set s.key (.table .header t)
    | false, some (.table .implied t) =>
      (assignAll .header t s.body).map fun t => es.set s.key (.table .header t)
    | true, none => (assignAll .header [] s.body).map fun t => es.set s.key (.tables [t])
    | true, some (.tables rows) =>
      (assignAll .header [] s.body).map fun t => es.set s.key (.tables (rows ++ [t]))
    | _, _ => none)
    .header entries s.path

/-- The document of some assignments and the sections behind them. -/
def assemble (top : List Assignment) (sections : List Section) : Option (Assoc Node) := do
  sections.foldlM addSection (← assignAll .header [] top)

end Toml
end Calibration
