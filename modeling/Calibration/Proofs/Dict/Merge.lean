/-
# Merging a document into a dict

A document is merged entry by entry, and an entry that cannot be read is passed over in six different ways.  What
is left of all this is a row of writes: the entries that can be read, in order (`readEntries_eq_setAll`), so that the
laws of such rows are those of merging (`merged_setAll`, `merge_again`).

A dict is merged into in place.  `mergeInto` is that program, and `run_mergeInto` says that it comes to what
`mergeXml` gives, and that a document that is refused leaves the dict as it was.
-/

import Calibration.Dict.Document
import Calibration.Proofs.Assoc.Writes

namespace Calibration

open Xml (Content Element)

/-! ### Entries that can be read -/

namespace Item

variable (types : ItemTypes) (scope : TypeScope)

/-- The key and the item of an entry that can be read: it is an `item` element with a key and a type, the type is
known, and the blank item of the type reads the element. -/
def readable? (e : Element) : Option (String × Item) :=
  if e.name = "item" then do
    let key ← e.attribute? "key"
    let tag ← e.attribute? "type"
    let blank ← types.createIn? scope tag
    let item ← (blank.read types e).toOption
    return (key, item)
  else none

/-- The entries in the content of an element that can be read, in order. -/
def readables (c : Content) : List (String × Item) := c.elements.filterMap (readable? types scope)

/-- **An entry is written if it can be read, and else nothing is.**  All six ways of passing an entry over come to the
same. -/
theorem readEntry_eq (e : Element) (entries : Assoc Item) :
    readEntry types scope e entries = entries.setAll (readable? types scope e).toList := by
  rw [readEntry, readable?]
  split_ifs
  · cases e.attribute? "key" with
    | none => rfl
    | some key =>
      cases e.attribute? "type" with
      | none => rfl
      | some tag =>
        simp only [Option.bind_eq_bind, Option.bind_some]
        cases types.createIn? scope tag with
        | none => rfl
        | some blank =>
          simp only [Option.bind_some]
          cases blank.read types e <;> rfl
  · rfl

/-- **Reading entries is writing those that can be read**, in order.  Whatever holds of rows of writes holds of
documents by this. -/
theorem readEntries_eq_setAll (c : Content) (entries : Assoc Item) :
    readEntries types scope c entries = entries.setAll (readables types scope c) := by
  induction c generalizing entries with
  | nil => rw [readEntries]; rfl
  | text s rest ih => rw [readEntries, ih]; rfl
  | element name attributes body rest _ ih =>
    rw [readEntries, readEntry_eq, ih, readables, readables, Content.elements]
    cases h : readable? types scope ⟨name, attributes, body⟩ with
    | none => rw [List.filterMap_cons_none h]; rfl
    | some p => rw [List.filterMap_cons_some h]; rfl

end Item

namespace Dict

variable (d : Dict) (types : ItemTypes)

/-- To merge the element of a dict is a row of writes. -/
theorem merge_eq {e : Element} (h : e.name = "dict") :
    d.merge types e = .ok { d with entries := d.entries.setAll (Item.readables types d.scope e.body) } := by
  rw [merge, if_pos h, Item.readEntries_eq_setAll]

/-! ### In place -/

/-- The dict with one entry read into it. -/
def readEntry (e : Element) (d : Dict) : Dict := { d with entries := Item.readEntry types d.scope e d.entries }

/-- Merges a document into a dict in place: refuses a text that is no document of a dict, and then goes through the
child elements one by one. -/
def mergeInto (xml : String) : ExceptT DictError (StateM Dict) Unit :=
  match Xml.parse xml with
  | .error fault => throw (.xml fault.message)
  | .ok root =>
    if root.name = "dict" then root.children.forM fun e => modifyThe Dict (readEntry types e)
    else throw (.unexpectedElement "dict" root.name)

/-- Going through the elements in place makes the same row of writes. -/
theorem run_forM_readEntry (es : List Element) (d : Dict) :
    (es.forM (fun e => modifyThe Dict (readEntry types e)) : ExceptT DictError (StateM Dict) Unit).run.run d =
      (.ok (), { d with entries := d.entries.setAll (es.filterMap (Item.readable? types d.scope)) }) := by
  induction es generalizing d with
  | nil => rfl
  | cons e es ih =>
    refine (ih (readEntry types e d)).trans ?_
    rw [readEntry, Item.readEntry_eq]
    cases h : Item.readable? types d.scope e with
    | none => rw [List.filterMap_cons_none h]; rfl
    | some p => rw [List.filterMap_cons_some h]; rfl

/-- **Merging in place comes to what `mergeXml` gives**, and a document that is refused leaves the dict as it was.
All errors come before the first entry is written. -/
theorem run_mergeInto (xml : String) :
    (mergeInto types xml).run.run d =
      match d.mergeXml types xml with
      | .ok merged => (.ok (), merged)
      | .error e => (.error e, d) := by
  rw [mergeInto, mergeXml]
  cases Xml.parse xml with
  | error fault => rfl
  | ok root =>
    by_cases h : root.name = "dict"
    · simp only [if_pos h, merge_eq d types h]
      exact run_forM_readEntry types root.children d
    · simp only [merge, if_neg h]
      rfl

/-- What a dict has become once the document of an element is merged into it. -/
structure Merged (root : Element) (merged : Dict) : Prop where
  /-- Each key holds the item of the last entry for it that can be read, or else what it held before. -/
  get? : ∀ key, merged.get? key =
    (Assoc.lastWrite? (Item.readables types d.scope root.body) key).or (d.get? key)
  /-- The old keys come first, then the new ones in the order of their first entries that can be read. -/
  keys : merged.keys =
    d.keys ++ (((Item.readables types d.scope root.body).map Prod.fst).filter (· ∉ d.keys)).eraseDups
  scope : merged.scope = d.scope
  /-- Entries that cannot be read make no difference. -/
  readable : ∀ other : Element, other.name = "dict" →
    Item.readables types d.scope other.body = Item.readables types d.scope root.body → d.merge types other = .ok merged

/-- The row of writes leaves what `Merged` says: the laws of such rows, read for dicts. -/
theorem merged_setAll (root : Element) :
    d.Merged types root { d with entries := d.entries.setAll (Item.readables types d.scope root.body) } where
  get? key := Assoc.find?_setAll ..
  keys := Assoc.keys_setAll ..
  scope := rfl
  readable other ho he := by rw [merge_eq d types ho, he]

/-- **An element merged once more changes nothing**, since the same entries can be read, and the same row of writes is
made. -/
theorem merge_again {root : Element} {merged : Dict} (h : d.merge types root = .ok merged) :
    merged.merge types root = .ok merged := by
  by_cases hname : root.name = "dict"
  · rw [merge_eq d types hname] at h
    obtain rfl := Except.ok.inj h
    rw [merge_eq _ types hname, Assoc.setAll_setAll]
  · rw [merge, if_neg hname] at h
    exact nomatch h

/-- To merge a text is to merge its element, if it is a document. -/
theorem mergeXml_eq (types : ItemTypes) (xml : String) :
    d.mergeXml types xml = match Xml.parse xml with
      | .ok e => d.merge types e
      | .error fault => .error (.xml fault.message) := rfl

/-- **Merging a text into a dict**, with whatever item types.  A text that is no document, or the document of another
element, is an error and leaves the dict as it was; all other texts are merged, whatever their entries are. -/
theorem run_mergeInto_cases (d : Dict) (types : ItemTypes) (xml : String) :
    match Xml.parse xml with
    | .error fault =>
      d.mergeXml types xml = .error (.xml fault.message) ∧
        (mergeInto types xml).run.run d = (.error (.xml fault.message), d)
    | .ok root =>
      if root.name = "dict" then
        ∃ merged, d.mergeXml types xml = .ok merged ∧ (mergeInto types xml).run.run d = (.ok (), merged) ∧
          d.Merged types root merged ∧ merged.mergeXml types xml = .ok merged
      else
        d.mergeXml types xml = .error (.unexpectedElement "dict" root.name) ∧
          (mergeInto types xml).run.run d = (.error (.unexpectedElement "dict" root.name), d) := by
  have hrun := run_mergeInto d types xml
  have hxml := fun d : Dict => d.mergeXml_eq types xml
  rw [hxml] at hrun
  cases hparse : Xml.parse xml with
  | error fault =>
    simp only [hparse] at hrun hxml
    exact ⟨hxml d, hrun⟩
  | ok root =>
    simp only [hparse] at hrun hxml ⊢
    split_ifs with hname
    · have hmerge := merge_eq d types hname
      rw [hmerge] at hrun
      exact ⟨_, (hxml d).trans hmerge, hrun, d.merged_setAll types root,
        (hxml _).trans (merge_again d types hmerge)⟩
    · have hrefused : d.merge types root = .error (.unexpectedElement "dict" root.name) := if_neg hname
      rw [hrefused] at hrun
      exact ⟨(hxml d).trans hrefused, hrun⟩

end Dict
end Calibration
