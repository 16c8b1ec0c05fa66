/-
# What documents keep of items

A document holds the items whose types it knows, at any depth of records; of records it keeps the serializable
entries (`kept`, `keptEntries`).  What items write is never ambiguous as markup: a text stands alone in its element,
elements stand beside elements only, and all names are names (`isStored_of_write`, `isRow_of_writeEntries`).  None of
them refuses to be written (`exists_write_of_isOwn`).  Both hold of items without parts of a plugin's own type: such a
part is written as its type likes, or not at all.
-/

import Calibration.Item.Write
import Calibration.Proofs.Outcome
import Calibration.Proofs.Time.ReadBack
import Calibration.Proofs.Xml.RoundTrip

namespace Calibration

/-! ### Written content -/

namespace Xml.Content

variable {n s : String} {a : Assoc String} {b c rest : Content}

/-- Content that is written with names only and is in normal form. -/
structure IsStored (c : Content) : Prop where
  isNamed : c.IsNamed
  isNormal : c.IsNormal

/-- Such content beside which an element can stand. -/
structure IsRow (c : Content) : Prop extends c.IsStored where
  hasNoBlank : c.HasNoBlank

/-- Nothing at all is a row. -/
theorem isRow_nil : IsRow nil := ⟨⟨trivial, ⟨trivial, fun _ => trivial⟩, trivial⟩, trivial⟩

/-- A text by itself is stored as it is, blank or not: it is layout only beside an element. -/
theorem isStored_ofText (s : String) : (ofText s).IsStored := by
  unfold ofText
  split
  · exact isRow_nil.toIsStored
  · next hs => exact ⟨trivial, ⟨⟨hs, rfl, trivial⟩, nofun⟩, trivial⟩

/-- One element more in front of a row makes a row. -/
theorem isRow_element (hn : isName n) (ha : ∀ k ∈ a.keys, isName k) (hdistinct : a.keys.Nodup)
    (hb : b.IsStored) (hrest : rest.IsRow) : (element n a b rest).IsRow :=
  ⟨⟨⟨hn, ha, hdistinct, hb.isNamed, hrest.isNamed⟩, ⟨hrest.isNormal.1.1, fun _ => hrest.hasNoBlank⟩,
    hb.isNormal.1, hb.isNormal.2, hrest.isNormal.2⟩, hrest.hasNoBlank⟩

/-- The values of an array are a row, whatever their texts are. -/
theorem isRow_wrapped (hn : isName n) (texts : List String) : (wrapped n texts).IsRow := by
  induction texts with
  | nil => exact isRow_nil
  | cons s texts ih => exact isRow_element hn nofun List.nodup_nil (isStored_ofText s) ih

end Xml.Content

namespace Item

open Xml (Content)

mutual

/-- A document can hold the item: it is of no plugin's own type, and in it the records have times whose years have
four digits, and entries whose keys differ. -/
def IsStorable : Item → Prop
  | record _ stamp entries _ =>
    stamp.IsValid ∧ stamp.IsWritable ∧ (Assoc.keys entries).Nodup ∧ AreStorable entries
  | custom _ => False
  | _ => True

@[inherit_doc IsStorable]
def AreStorable : List (String × Item) → Prop
  | [] => True
  | (_, item) :: rest => item.IsStorable ∧ AreStorable rest

end

mutual

/-- What a document keeps of an item, read in a scope. -/
def kept (scope : TypeScope) : Item → Item
  | record name stamp entries _ => record name stamp (keptEntries scope entries) scope
  | item => item

/-- What a document keeps of entries: the serializable ones. -/
def keptEntries (scope : TypeScope) : List (String × Item) → List (String × Item)
  | [] => []
  | (key, item) :: rest =>
    if item.isSerializable then (key, item.kept scope) :: keptEntries scope rest else keptEntries scope rest

end

/-- **The serializable entries are kept in their order, under their keys.**  This is what the recursion over records
comes to at one level. -/
theorem keptEntries_eq (scope : TypeScope) (entries : List (String × Item)) : keptEntries scope entries =
    (entries.filter (·.2.isSerializable)).map fun (key, item) => (key, item.kept scope) := by
  induction entries with
  | nil => rfl
  | cons entry entries ih =>
    obtain ⟨key, item⟩ := entry
    rw [keptEntries, ih, List.filter_cons]
    split <;> rfl

/-- The axes of a reading are a row. -/
theorem isRow_axes (m : Measurement) : (axes m).IsRow :=
  Content.isRow_element (by decide) nofun List.nodup_nil (Content.isStored_ofText _)
    (Content.isRow_element (by decide) nofun List.nodup_nil (Content.isStored_ofText _)
      (Content.isRow_element (by decide) nofun List.nodup_nil (Content.isStored_ofText _) Content.isRow_nil))

mutual

/-- No part of the item is of a plugin's own type. -/
def IsOwn : Item → Prop
  | record _ _ entries _ => AreOwn entries
  | custom _ => False
  | _ => True

@[inherit_doc IsOwn]
def AreOwn : List (String × Item) → Prop
  | [] => True
  | (_, item) :: rest => item.IsOwn ∧ AreOwn rest

end

mutual

/-- What a document can hold has no part of a plugin's own type. -/
theorem IsStorable.isOwn : (item : Item) → item.IsStorable → item.IsOwn
  | bool .., _ | int .., _ | double .., _ | string .., _ | blob _, _ => trivial
  | intArray _, _ | doubleArray _, _ | stringArray _, _ | xyz _, _ => trivial
  | record _ _ entries _, h => AreStorable.areOwn entries h.2.2.2
  | custom _, h => h.elim

/-- So it is with entries. -/
theorem AreStorable.areOwn : (entries : List (String × Item)) → AreStorable entries → AreOwn entries
  | [], _ => trivial
  | (_, item) :: rest, h => ⟨IsStorable.isOwn item h.1, AreStorable.areOwn rest h.2⟩

end

/-- **What entries write begins with the element of the first of them**, or it is left out if it is transient.  Who
goes along the entries takes them apart by this. -/
theorem writeEntries_cons_cases {key : String} {item : Item} {rest : List (String × Item)} {c : Content}
    (h : writeEntries ((key, item) :: rest) = .ok c) :
    (item.isSerializable ∧ ∃ content more, item.write = .ok content ∧ writeEntries rest = .ok more ∧
      c = .element "item" [("key", key), ("type", item.tag)] content more) ∨
    ¬ item.isSerializable ∧ writeEntries rest = .ok c := by
  rw [writeEntries] at h
  split at h
  · next hs =>
    obtain ⟨content, hcontent, h⟩ := bind_eq_ok_iff.1 h
    obtain ⟨more, hmore, h⟩ := bind_eq_ok_iff.1 h
    exact .inl ⟨hs, content, more, hcontent, hmore, (Except.ok.inj h).symm⟩
  · next hs => exact .inr ⟨hs, h⟩

/-- The tag of an entry has names, whatever its key and its type are. -/
theorem isNamed_entryTag (key tag : String) :
    (Content.element "item" [("key", key), ("type", tag)] .nil .nil).IsNamed :=
  ⟨by decide, (by decide : ∀ k ∈ ["key", "type"], Xml.isName k), (by decide : ["key", "type"].Nodup), trivial, trivial⟩

/-- So has the tag of a record. -/
theorem isNamed_recordTag (name : String) (stamp : Time.Timestamp) :
    (Content.element "record" [("name", name), ("timestamp", stamp.text)] .nil .nil).IsNamed :=
  ⟨by decide, (by decide : ∀ k ∈ ["name", "timestamp"], Xml.isName k), (by decide : ["name", "timestamp"].Nodup),
    trivial, trivial⟩

/-- The content that a record writes around the content of its entries. -/
theorem isRow_record (name : String) (stamp : Time.Timestamp) {c : Content} (hc : c.IsRow) :
    (Content.element "record" [("name", name), ("timestamp", stamp.text)] (.element "dict" [] c .nil) .nil).IsRow := by
  have hdict : (Content.element "dict" [] c .nil).IsRow :=
    Content.isRow_element (by decide) nofun List.nodup_nil hc.toIsStored Content.isRow_nil
  obtain ⟨hn, ha, hdistinct, -⟩ := isNamed_recordTag name stamp
  exact Content.isRow_element hn ha hdistinct hdict.toIsStored Content.isRow_nil

mutual

/-- **What an item writes is read back as it is**, if no part of it is of a plugin's own type: the content has names
and is in normal form, so that neither the writer's line breaks nor the reader's trimming reach it. -/
theorem isStored_of_write : (item : Item) → item.IsOwn → (c : Content) → item.write = .ok c → c.IsStored
  | bool .., _, _, hc | int .., _, _, hc | double .., _, _, hc | string .., _, _, hc | blob _, _, _, hc =>
    Except.ok.inj hc ▸ Content.isStored_ofText _
  | intArray _, _, _, hc | doubleArray _, _, _, hc | stringArray _, _, _, hc =>
    Except.ok.inj hc ▸ (Content.isRow_wrapped (by decide) _).toIsStored
  | xyz m, _, _, hc => Except.ok.inj hc ▸ (isRow_axes m).toIsStored
  | record name stamp entries _, h, _, hc => by
    rw [write] at hc
    obtain ⟨content, hcontent, hc⟩ := bind_eq_ok_iff.1 hc
    exact Except.ok.inj hc ▸ (isRow_record name stamp (isRow_of_writeEntries entries h content hcontent)).toIsStored
  | custom _, h, _, _ => h.elim

/-- **What the entries of a dict write**, element by element: a row of elements with names, each of which holds what
its item has written. -/
theorem isRow_of_writeEntries : (entries : List (String × Item)) → AreOwn entries → (c : Content) →
    writeEntries entries = .ok c → c.IsRow
  | [], _, _, hc => Except.ok.inj hc ▸ Content.isRow_nil
  | (key, item) :: rest, h, c, hc => by
    rcases writeEntries_cons_cases hc with ⟨-, content, more, hcontent, hmore, rfl⟩ | ⟨-, hc⟩
    · obtain ⟨hn, ha, hdistinct, -⟩ := isNamed_entryTag key item.tag
      exact Content.isRow_element hn ha hdistinct (isStored_of_write item h.1 content hcontent)
        (isRow_of_writeEntries rest h.2 more hmore)
    · exact isRow_of_writeEntries rest h.2 c hc

end

mutual

/-- **Items without parts of a plugin's own type do not refuse to be written.**  The recursion follows the records,
whose entries are such items again. -/
theorem exists_write_of_isOwn : (item : Item) → item.IsOwn → ∃ c, item.write = .ok c
  | bool .., _ | int .., _ | double .., _ | string .., _ | blob _, _ => ⟨_, rfl⟩
  | intArray _, _ | doubleArray _, _ | stringArray _, _ | xyz _, _ => ⟨_, rfl⟩
  | record _ _ entries _, h => by
    obtain ⟨c, hc⟩ := exists_writeEntries_of_areOwn entries h
    exact ⟨_, by rw [write, hc]; rfl⟩
  | custom _, h => h.elim

/-- Nor do their entries, transient or not. -/
theorem exists_writeEntries_of_areOwn : (entries : List (String × Item)) → AreOwn entries →
    ∃ c, writeEntries entries = .ok c
  | [], _ => ⟨_, rfl⟩
  | (_, item) :: rest, h => by
    obtain ⟨c, hc⟩ := exists_write_of_isOwn item h.1
    obtain ⟨more, hmore⟩ := exists_writeEntries_of_areOwn rest h.2
    rw [writeEntries]
    split
    · exact ⟨_, by rw [hc, hmore]; rfl⟩
    · exact ⟨more, hmore⟩

end

end Item
end Calibration
