/-
# Items that were read are written and read again

Items come from documents by reading, with the blank items that the types at hand make (`IsReadable`).  What the
document of such an item keeps is `reread?`: a record whose year has not four digits is lost, with all that is in it,
as its time is written with a sign that no reader takes; everything else is read again as it is (`rereadsAs_of_write`,
`readables_written`), and so an item is read again as it is exactly if all its records have years of four digits
(`reread?_eq_self_iff`).  All this is about items without parts of a plugin's own type.  What such a part writes is up
to its type; if only elements with names come from it, the content of all items that were read has names
(`isNamed_of_write`), and a document with them can be read.
-/

import Calibration.Proofs.Dict.Merge
import Calibration.Proofs.Item.RoundTrip

namespace Calibration

open Xml (Content Element)

instance (t : Time.Timestamp) : Decidable t.IsWritable := inferInstanceAs (Decidable (_ ∧ _))

/-! ### Types that make what they are asked for -/

/-- The factory makes blank items of the types that it is asked for. -/
def Factory.IsFaithful (factory : Factory) : Prop := ∀ tag blank, factory tag = some blank → blank.tag = tag

/-- The table makes blank items of the types that it is asked for. -/
def ItemTypes.IsFaithful (types : ItemTypes) : Prop := ∀ tag blank, types.create? tag = some blank → blank.tag = tag

/-- What the item writes has names, whatever value it holds. -/
def Custom.WritesNames (own : Custom) : Prop := ∀ value c, { own with value }.write = .ok c → c.IsNamed

/-- What the items of plugins' own types in the table write has names: a document with anything else in it is one that
no reader takes. -/
def ItemTypes.WritesNames (types : ItemTypes) : Prop :=
  ∀ tag own, types.create? tag = some (.custom own) → own.WritesNames

/-- Items that have their value for a text write names: a text has none. -/
theorem Custom.writesNames_of_text {own : Custom} (h : own.format = .text) : own.WritesNames := by
  intro value c hc
  rw [write] at hc
  split_ifs at hc
  rw [show ({ own with value } : Custom).format = .text from h] at hc
  exact Except.ok.inj hc ▸ (Content.isStored_ofText value).isNamed

/-- The factory of records makes records. -/
theorem Factory.isFaithful_records (scope : TypeScope) : (records scope).IsFaithful := by
  intro tag blank h
  rw [records] at h
  split_ifs at h with htag
  exact Option.some.inj h ▸ htag.symm

/-- The factory of readings makes readings. -/
theorem Factory.isFaithful_readings : readings.IsFaithful := by
  intro tag blank h
  rw [readings] at h
  split_ifs at h with htag
  exact Option.some.inj h ▸ htag.symm

/-- Copies have the tag of what they are copied from, which is the one that was asked for. -/
theorem Factory.isFaithful_copies (items : List Custom) : (copies items).IsFaithful := by
  intro tag blank h
  obtain ⟨c, hc, rfl⟩ := Option.map_eq_some_iff.1 h
  have htag := List.find?_some hc
  exact of_decide_eq_true htag

/-- The built-in types are what their tags say. -/
theorem Item.tag_builtin? {tag : String} {blank : Item} (h : builtin? tag = some blank) : blank.tag = tag := by
  unfold builtin? at h
  split at h <;> first | exact Option.some.inj h ▸ rfl | exact nomatch h

/-- **A table makes what it is asked for if each of its factories does.**  Built-in tags need no such condition. -/
theorem ItemTypes.isFaithful_of_factories {types : ItemTypes} (h : ∀ p ∈ types, p.2.IsFaithful) : types.IsFaithful := by
  intro tag blank hblank
  rcases Option.or_eq_some_iff.1 hblank with hbuiltin | ⟨-, hfound⟩
  · exact Item.tag_builtin? hbuiltin
  · obtain ⟨p, hp, hmade⟩ := List.exists_of_findSome?_eq_some hfound
    exact h p hp tag blank hmade

/-- Whether a table writes names is seen factory by factory: the built-in items are of no plugin's own type. -/
theorem ItemTypes.writesNames_of_factories {types : ItemTypes}
    (h : ∀ p ∈ types, ∀ tag own, p.2 tag = some (.custom own) → own.WritesNames) : types.WritesNames := by
  intro tag own hown
  rcases Option.or_eq_some_iff.1 hown with hbuiltin | ⟨-, hfound⟩
  · unfold Item.builtin? at hbuiltin
    split at hbuiltin <;> cases hbuiltin
  · obtain ⟨p, hp, hmade⟩ := List.exists_of_findSome?_eq_some hfound
    exact h p hp tag own hmade

namespace Item

variable {types : ItemTypes} {scope : TypeScope} {blank item : Item} {tag : String} {c : Content} {e : Element}

/-- A dict of any scope is given what it asks for. -/
theorem tag_createIn? (hfaithful : types.IsFaithful) (h : types.createIn? scope tag = some blank) :
    blank.tag = tag := by
  cases scope with
  | builtin => exact tag_builtin? h
  | host => exact hfaithful tag blank h

/-! ### Items that were read -/

/-- The item can come from a document: the blank item of its type reads it from some element. -/
def IsReadable (types : ItemTypes) (scope : TypeScope) (item : Item) : Prop :=
  ∃ blank e, types.createIn? scope item.tag = some blank ∧ blank.read types e = .ok item

/-- **What a blank record reads is a record of the same scope**, at a time that is valid, with entries that were read.
-/
theorem of_read_record {name : String} {stamp : Time.Timestamp} {entries : List (String × Item)}
    (h : (record name stamp entries scope).read types e = .ok item) :
    ∃ name stamp c, stamp.IsValid ∧ item = record name stamp (readEntries types scope c []) scope := by
  rw [read_record] at h
  split at h
  · cases h
  · next r _ =>
    obtain ⟨⟨name, stamp⟩, hhead, rfl⟩ := map_eq_ok_iff.1 h
    have hvalid : stamp.IsValid := by
      rw [readRecordHead] at hhead
      split at hhead
      · cases hhead
      · cases hhead
      · split at hhead
        · next heq =>
          obtain ⟨-, rfl⟩ := Prod.mk.inj (Except.ok.inj hhead)
          exact Time.Timestamp.isValid_of_readChars? heq
        · cases hhead
    -- A record without a dict is one whose dict has no entries.
    cases r.body.child? "dict" with
    | none => exact ⟨name, stamp, .nil, hvalid, by rw [readEntries]; rfl⟩
    | some d => exact ⟨name, stamp, d.body, hvalid, rfl⟩

/-- An item of a plugin's own type that was read has another value, and is the same item otherwise. -/
theorem Custom.exists_value_of_read {own new : Custom} (h : own.read e = .ok new) :
    ∃ value, new = { own with value } := by
  rw [Custom.read] at h
  split_ifs at h
  obtain ⟨value, -, rfl⟩ := map_eq_ok_iff.1 h
  exact ⟨value, rfl⟩

/-- The item without its value. -/
def emptied : Item → Item
  | bool _ transient => bool false transient
  | int _ transient => int 0 transient
  | double _ transient => double .zero transient
  | string _ transient => string "" transient
  | blob _ => blob []
  | intArray _ => intArray []
  | doubleArray _ => doubleArray []
  | stringArray _ => stringArray []
  | xyz _ => blankXyz
  | record _ _ _ scope => blankRecord scope
  | custom c => custom { c with value := "" }

/-- An item without its value has the same tag. -/
theorem tag_emptied (item : Item) : item.emptied.tag = item.tag := by cases item <;> rfl

/-- **Reading changes nothing but the value**: the type stays, the flag of a transient item stays, and so does the
scope of a record. -/
theorem emptied_of_read (h : blank.read types e = .ok item) : item.emptied = blank.emptied := by
  cases blank with
  | record name stamp entries scope =>
    obtain ⟨_, _, _, -, rfl⟩ := of_read_record h
    rfl
  | custom c =>
    rw [read] at h
    obtain ⟨new, hnew, rfl⟩ := map_eq_ok_iff.1 h
    obtain ⟨value, rfl⟩ := Custom.exists_value_of_read hnew
    rfl
  | xyz m =>
    rw [read] at h
    obtain ⟨x, -, h⟩ := bind_eq_ok_iff.1 h
    obtain ⟨y, -, h⟩ := bind_eq_ok_iff.1 h
    obtain ⟨z, -, h⟩ := bind_eq_ok_iff.1 h
    exact Except.ok.inj h ▸ rfl
  | _ =>
    rw [read] at h
    obtain ⟨value, -, h⟩ := bind_eq_ok_iff.1 h
    exact Except.ok.inj h ▸ rfl

/-- So an item keeps its tag when it is read. -/
theorem tag_of_read (h : blank.read types e = .ok item) : item.tag = blank.tag := by
  rw [← tag_emptied, emptied_of_read h, tag_emptied]

/-- **Entries that were read can be read.**  Each of them came from an element that its type accepted. -/
theorem isReadable_of_mem_readEntries (hfaithful : types.IsFaithful) {p : String × Item}
    (h : p ∈ readEntries types scope c []) : IsReadable types scope p.2 := by
  rw [readEntries_eq_setAll] at h
  obtain ⟨e, -, hread⟩ := List.mem_filterMap.1 ((Assoc.mem_of_mem_setAll [] h).resolve_left List.not_mem_nil)
  rw [readable?] at hread
  split_ifs at hread
  simp only [Option.bind_eq_bind, Option.bind_eq_some_iff] at hread
  obtain ⟨key, -, tag, -, blank, hblank, item, hitem, hp⟩ := hread
  obtain rfl := Option.some.inj hp
  rw [toOption_eq_some_iff] at hitem
  exact ⟨blank, e, by rw [tag_of_read hitem, tag_createIn? hfaithful hblank, hblank], hitem⟩

/-- **A record that can come from a document** is read by a blank record of its own scope, and its entries can come from
a document too.  An induction over items that were read goes on into records by this. -/
theorem IsReadable.of_record (hfaithful : types.IsFaithful) {name : String} {stamp : Time.Timestamp}
    {entries : List (String × Item)} {inner : TypeScope}
    (h : IsReadable types scope (record name stamp entries inner)) :
    (∃ blank first old e, types.createIn? scope "CalibRecord" = some (record blank first old inner) ∧
      (record blank first old inner).read types e = .ok (record name stamp entries inner)) ∧
    ∀ p ∈ entries, IsReadable types inner p.2 := by
  obtain ⟨blank, e, hblank, hread⟩ := h
  have hempty := emptied_of_read hread
  cases blank with
  | record _ _ _ kept =>
    obtain ⟨_, _, source, -, hsame⟩ := of_read_record hread
    obtain ⟨rfl, rfl, hentries, rfl⟩ := Item.record.inj hsame
    exact ⟨⟨_, _, _, e, hblank, hread⟩, fun p hp => isReadable_of_mem_readEntries hfaithful (hentries ▸ hp)⟩
  | _ => exact nomatch hempty

/-- Entries that were read stand at keys that differ. -/
theorem nodup_keys_readEntries (types : ItemTypes) (scope : TypeScope) (c : Content) :
    (Assoc.keys (readEntries types scope c [])).Nodup := by
  rw [readEntries_eq_setAll]
  exact Assoc.nodup_keys_setAll [] List.nodup_nil _

/-! ### What a document keeps -/

mutual

/-- What is left of an item that was read when it is written and read again. -/
def reread? : Item → Option Item
  | record name stamp entries scope =>
    if stamp.IsWritable then some (record name stamp (rereadEntries entries) scope) else none
  | item => some item

/-- What is left of entries that were read when they are written and read again. -/
def rereadEntries : List (String × Item) → List (String × Item)
  | [] => []
  | (key, item) :: rest =>
    match item.reread? with
    | some item => (key, item) :: rereadEntries rest
    | none => rereadEntries rest

end

mutual

/-- The records in the item have times whose years have four digits. -/
def IsDated : Item → Prop
  | record _ stamp entries _ => stamp.IsWritable ∧ AreDated entries
  | _ => True

@[inherit_doc IsDated]
def AreDated : List (String × Item) → Prop
  | [] => True
  | (_, item) :: rest => item.IsDated ∧ AreDated rest

end

/-- What is left of entries is no more than there was. -/
theorem length_rereadEntries_le (entries : List (String × Item)) : (rereadEntries entries).length ≤ entries.length := by
  induction entries with
  | nil => exact Nat.le_refl 0
  | cons p entries ih =>
    rw [rereadEntries]
    split
    · exact Nat.succ_le_succ ih
    · exact Nat.le_succ_of_le ih

mutual

/-- **An item without parts of a plugin's own type is read again as it is** exactly if its records have years of four
digits. -/
theorem reread?_eq_self_iff : (item : Item) → item.IsOwn → (item.reread? = some item ↔ item.IsDated)
  | bool .., _ | int .., _ | double .., _ | string .., _ | blob _, _ => ⟨fun _ => trivial, fun _ => rfl⟩
  | intArray _, _ | doubleArray _, _ | stringArray _, _ | xyz _, _ => ⟨fun _ => trivial, fun _ => rfl⟩
  | record name stamp entries scope, h => by
    have hentries := rereadEntries_eq_self_iff entries h
    rw [reread?, IsDated, ← hentries]
    split_ifs with hyear
    · simp [hyear]
    · exact ⟨nofun, fun h => absurd h.1 hyear⟩
  | custom _, h => h.elim

/-- **Entries are all read again as they are** exactly if the same holds of each item; one that is lost cannot be made
up for. -/
theorem rereadEntries_eq_self_iff : (entries : List (String × Item)) → AreOwn entries →
    (rereadEntries entries = entries ↔ AreDated entries)
  | [], _ => ⟨fun _ => trivial, fun _ => rfl⟩
  | (key, item) :: rest, h => by
    have hitem := reread?_eq_self_iff item h.1
    have hrest := rereadEntries_eq_self_iff rest h.2
    rw [rereadEntries, AreDated, ← hitem, ← hrest]
    cases hr : item.reread? with
    | none =>
      -- An entry that is lost is missed in the number of entries.
      refine ⟨fun he => ?_, fun h => nomatch h.1⟩
      have hlength := length_rereadEntries_le rest
      rw [show rereadEntries rest = _ from he, List.length_cons] at hlength
      exact absurd hlength (Nat.not_succ_le_self _)
    | some again => simp

end

/-! ### Written and read again -/

/-- The blank item of a type reads the content as what is left of an item. -/
def RereadsAs (types : ItemTypes) (scope : TypeScope) (tag : String) (c : Content) (left : Option Item) : Prop :=
  ∃ blank, types.createIn? scope tag = some blank ∧ ∀ n a, (blank.read types ⟨n, a, c⟩).toOption = left

/-- What is read as an item leaves that item. -/
theorem ReadsAs.rereadsAs (h : ReadsAs types scope tag c item) : RereadsAs types scope tag c (some item) := by
  obtain ⟨blank, hblank, hread⟩ := h
  exact ⟨blank, hblank, fun n a => by rw [hread]; rfl⟩

/-- A written entry is read as what is left of its item, under its key. -/
theorem readable?_written (key : String) {left : Option Item} (h : RereadsAs types scope tag c left) :
    readable? types scope ⟨"item", [("key", key), ("type", tag)], c⟩ = left.map (key, ·) := by
  obtain ⟨blank, hblank, hread⟩ := h
  have hkeyOf : Element.attribute? ⟨"item", [("key", key), ("type", tag)], c⟩ "key" = some key := rfl
  have htypeOf : Element.attribute? ⟨"item", [("key", key), ("type", tag)], c⟩ "type" = some tag := rfl
  rw [readable?, if_pos rfl, hkeyOf, htypeOf]
  simp only [Option.bind_eq_bind, Option.bind_some, hblank, hread]
  cases left <;> rfl

/-- A reading that was read is read again. -/
theorem readsAs_xyz_of_isReadable {m : Measurement} (h : IsReadable types scope (xyz m)) :
    ReadsAs types scope "Xyz" (axes m) (xyz m) := by
  obtain ⟨blank, e, hblank, hread⟩ := h
  have hempty := emptied_of_read hread
  cases blank with
  | xyz first => exact readsAs_xyz hblank m
  | _ => exact nomatch hempty

/-- The keys that are left stand in their order. -/
theorem keys_rereadEntries_sublist (entries : List (String × Item)) :
    (Assoc.keys (rereadEntries entries)).Sublist (Assoc.keys entries) := by
  induction entries with
  | nil => exact .slnil
  | cons p entries ih =>
    rw [rereadEntries]
    split
    · exact ih.cons_cons _
    · exact ih.cons _

/-- **A time in a year without four digits is refused** when it is read again: it is written with a sign in front.
This is where a record is lost. -/
theorem readRecordHead_of_not_isWritable (name : String) {stamp : Time.Timestamp} (h : ¬ stamp.IsWritable)
    (c : Content) : readRecordHead ⟨"record", [("name", name), ("timestamp", stamp.text)], c⟩ =
      .error (.invalidValue "CalibRecord" stamp.text) := by
  have hread : Time.Timestamp.read? stamp.text = none := by
    rw [Time.Timestamp.read?, Time.Timestamp.text, String.toList_ofList,
      Time.Timestamp.readChars?_chars_of_not_isWritable h]
  simp [readRecordHead, Element.attribute?, Assoc.find?, hread]

/-- **A record that was read is read again** with what is left of its entries, if its year has four digits.  Otherwise
nothing is left of it. -/
theorem reread_record {blank name : String} {first stamp : Time.Timestamp} {old entries : List (String × Item)}
    (h : (record blank first old scope).read types e = .ok (record name stamp entries scope))
    (hentries : ∀ content, writeEntries entries = .ok content → readables types scope content = rereadEntries entries)
    (hc : (record name stamp entries scope).write = .ok c) (n : String) (a : Assoc String) :
    ((record blank first old scope).read types ⟨n, a, c⟩).toOption = (record name stamp entries scope).reread? := by
  obtain ⟨_, _, source, hvalid, hsame⟩ := of_read_record h
  obtain ⟨rfl, rfl, hsource, -⟩ := Item.record.inj hsame
  rw [write] at hc
  obtain ⟨content, hcontent, hc⟩ := bind_eq_ok_iff.1 hc
  obtain rfl := Except.ok.inj hc
  rw [read_record, reread?]
  change (Except.map _ (readRecordHead ⟨"record", _, .element "dict" [] content .nil⟩)).toOption = _
  split_ifs with hyear
  · have hkeys : (Assoc.keys (rereadEntries entries)).Nodup :=
      (keys_rereadEntries_sublist entries).nodup (hsource ▸ nodup_keys_readEntries types scope source)
    have hread : readEntries types scope content [] = rereadEntries entries := by
      rw [readEntries_eq_setAll types scope content, hentries content hcontent, Assoc.setAll_of_nodup [] hkeys]
      rfl
    rw [readRecordHead_written name hvalid hyear, ← hread]
    rfl
  · rw [readRecordHead_of_not_isWritable name hyear]
    rfl

/-- Items that were read are written, as the blank items of the built-in types are not transient. -/
theorem isSerializable_of_isReadable (h : IsReadable types scope item) (hown : item.IsOwn) : item.isSerializable := by
  obtain ⟨blank, e, hblank, hread⟩ := h
  have hempty := emptied_of_read hread
  have hbuiltin : ∀ made, builtin? item.tag = some made → blank = made := fun made h =>
    Option.some.inj (hblank.symm.trans (types.createIn?_of_builtin? h scope))
  cases item with
  | custom => exact hown.elim
  | bool value transient | int value transient | double value transient | string value transient =>
    obtain rfl := hbuiltin _ rfl
    injection hempty with _ htransient
    rw [isSerializable, htransient]
    rfl
  | _ => rfl

mutual

/-- **What an item that was read has written is read again** by the blank item of its type: as the item, but for the
records in it whose years have not four digits. -/
theorem rereadsAs_of_write (hfaithful : types.IsFaithful) : (scope : TypeScope) → (item : Item) →
    IsReadable types scope item → item.IsOwn → item.isSerializable → (c : Content) → item.write = .ok c →
    RereadsAs types scope item.tag c item.reread?
  | scope, bool value false, _, _, _, c, hc =>
    Except.ok.inj hc ▸ (readsAs_text Scalar.bool_readsBack (bool ·) rfl (fun e => by rw [read]; rfl) value).rereadsAs
  | scope, int value false, _, _, _, c, hc =>
    Except.ok.inj hc ▸ (readsAs_text Scalar.int_readsBack (int ·) rfl (fun e => by rw [read]; rfl) value).rereadsAs
  | scope, double value false, _, _, _, c, hc =>
    Except.ok.inj hc ▸
      (readsAs_text Scalar.double_readsBack (double ·) rfl (fun e => by rw [read]; rfl) value).rereadsAs
  | scope, string value false, _, _, _, c, hc =>
    Except.ok.inj hc ▸
      (readsAs_text Scalar.string_readsBack (string ·) rfl (fun e => by rw [read]; rfl) value).rereadsAs
  | scope, blob bytes, _, _, _, c, hc => Except.ok.inj hc ▸ (readsAs_blob bytes).rereadsAs
  | scope, intArray values, _, _, _, c, hc =>
    Except.ok.inj hc ▸
      (readsAs_wrapped Scalar.int_readsBack intArray rfl (fun e => by rw [read]; rfl) values).rereadsAs
  | scope, doubleArray values, _, _, _, c, hc =>
    Except.ok.inj hc ▸
      (readsAs_wrapped Scalar.double_readsBack doubleArray rfl (fun e => by rw [read]; rfl) values).rereadsAs
  | scope, stringArray values, _, _, _, c, hc =>
    Except.ok.inj hc ▸
      (readsAs_wrapped Scalar.string_readsBack stringArray rfl (fun e => by rw [read]; rfl) values).rereadsAs
  | scope, xyz m, h, _, _, c, hc => Except.ok.inj hc ▸ (readsAs_xyz_of_isReadable h).rereadsAs
  | scope, record name stamp entries inner, h, hown, _, c, hc => by
    obtain ⟨⟨_, _, _, e, hblank, hread⟩, hreadable⟩ := h.of_record hfaithful
    exact ⟨_, hblank, reread_record hread (readables_written hfaithful inner entries hreadable hown) hc⟩
  | scope, custom _, _, hown, _, _, _ => hown.elim

/-- **What entries that were read have written is read again**, entry by entry and in order; only the entries with
records of other years are missing. -/
theorem readables_written (hfaithful : types.IsFaithful) : (scope : TypeScope) → (entries : List (String × Item)) →
    (∀ p ∈ entries, IsReadable types scope p.2) → AreOwn entries → (c : Content) → writeEntries entries = .ok c →
    readables types scope c = rereadEntries entries
  | scope, [], _, _, c, hc => by
    obtain rfl := Except.ok.inj hc
    rfl
  | scope, (key, item) :: rest, h, hown, c, hc => by
    obtain ⟨hitem, hrest⟩ := List.forall_mem_cons.1 h
    have hs := isSerializable_of_isReadable hitem hown.1
    obtain ⟨-, content, more, hcontent, hmore, rfl⟩ := (writeEntries_cons_cases hc).resolve_right fun h => h.1 hs
    have hentry := readable?_written key (rereadsAs_of_write hfaithful scope item hitem hown.1 hs content hcontent)
    have hmoreRead := readables_written hfaithful scope rest hrest hown.2 more hmore
    rw [readables, Content.elements, rereadEntries]
    cases hleft : item.reread? with
    | none =>
      rw [hleft] at hentry
      rw [List.filterMap_cons_none hentry]
      exact hmoreRead
    | some again =>
      rw [hleft] at hentry
      rw [List.filterMap_cons_some hentry]
      exact congrArg _ hmoreRead

end

/-! ### Items of a plugin's own type -/

/-- No dict makes items of a plugin's own type that its host does not make. -/
theorem create?_of_createIn?_custom {made : Custom} (h : types.createIn? scope tag = some (custom made)) :
    types.create? tag = some (custom made) := by
  cases scope with
  | builtin => exact (types.createIn?_of_builtin? h .host)
  | host => exact h

mutual

/-- **What items that were read have written has names**, if it has in the items of plugins' own types.  Records pass it
on from their entries, and the other items write names only. -/
theorem isNamed_of_write (hfaithful : types.IsFaithful) (hnames : types.WritesNames) : (scope : TypeScope) →
    (item : Item) → IsReadable types scope item → (c : Content) → item.write = .ok c → c.IsNamed
  | _, bool .., _, c, hc | _, int .., _, c, hc | _, double .., _, c, hc | _, string .., _, c, hc =>
    (isStored_of_write _ (by exact trivial) c hc).isNamed
  | _, blob _, _, c, hc | _, intArray _, _, c, hc | _, doubleArray _, _, c, hc | _, stringArray _, _, c, hc =>
    (isStored_of_write _ (by exact trivial) c hc).isNamed
  | _, xyz _, _, c, hc => (isStored_of_write _ (by exact trivial) c hc).isNamed
  | scope, record name stamp entries inner, h, c, hc => by
    obtain ⟨-, hreadable⟩ := h.of_record hfaithful
    rw [write] at hc
    obtain ⟨content, hcontent, hc⟩ := bind_eq_ok_iff.1 hc
    have hnamed := isNamed_of_writeEntries hfaithful hnames inner entries hreadable content hcontent
    obtain ⟨hn, ha, hdistinct, -⟩ := isNamed_recordTag name stamp
    exact Except.ok.inj hc ▸ ⟨hn, ha, hdistinct, ⟨by decide, nofun, List.nodup_nil, hnamed, trivial⟩, trivial⟩
  | scope, custom own, h, c, hc => by
    obtain ⟨blank, e, hblank, hread⟩ := h
    cases blank with
    | custom made =>
      rw [read] at hread
      obtain ⟨new, hnew, hsame⟩ := map_eq_ok_iff.1 hread
      obtain ⟨value, rfl⟩ := Custom.exists_value_of_read hnew
      obtain rfl := Item.custom.inj hsame
      exact hnames _ made (create?_of_createIn?_custom hblank) value c hc
    | _ => exact nomatch emptied_of_read hread

/-- **What entries that were read have written has names**, as what their items have written has.  The keys of entries
stand in values, so they may be any text. -/
theorem isNamed_of_writeEntries (hfaithful : types.IsFaithful) (hnames : types.WritesNames) : (scope : TypeScope) →
    (entries : List (String × Item)) → (∀ p ∈ entries, IsReadable types scope p.2) → (c : Content) →
    writeEntries entries = .ok c → c.IsNamed
  | _, [], _, _, hc => Except.ok.inj hc ▸ trivial
  | scope, (key, item) :: rest, h, c, hc => by
    obtain ⟨hitem, hrest⟩ := List.forall_mem_cons.1 h
    rcases writeEntries_cons_cases hc with ⟨-, content, more, hcontent, hmore, rfl⟩ | ⟨-, hc⟩
    · obtain ⟨hn, ha, hdistinct, -⟩ := isNamed_entryTag key item.tag
      exact ⟨hn, ha, hdistinct, isNamed_of_write hfaithful hnames scope item hitem content hcontent,
        isNamed_of_writeEntries hfaithful hnames scope rest hrest more hmore⟩
    · exact isNamed_of_writeEntries hfaithful hnames scope rest hrest c hc

end

end Item
end Calibration
