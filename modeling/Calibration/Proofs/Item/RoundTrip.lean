/-
# Items are read back from their markup

An item is read by a blank item of its type.  The types at hand must make blank readings, and blank records that read
their entries by the same types (`Covers`); the other blank items are always there.  Then the blank item of the type
reads what was written as what is kept (`readsAs_of_write`), and reading entries writes those that are kept behind those
that were there (`readEntries_written`): both by one induction, since records hold entries.
-/

import Calibration.Proofs.Assoc.Writes
import Calibration.Proofs.Item.Scalar
import Calibration.Proofs.Item.Stored
import Calibration.Proofs.Text.Base64

namespace Calibration

/-- The types make blank readings, and blank records that read their entries by the same types. -/
structure ItemTypes.Covers (types : ItemTypes) (scope : TypeScope) : Prop where
  reading : ∃ m, types.createIn? scope "Xyz" = some (.xyz m)
  record : ∃ name stamp entries, types.createIn? scope "CalibRecord" = some (.record name stamp entries scope)

/-- The built-in types are known in every scope. -/
theorem ItemTypes.createIn?_of_builtin? {tag : String} {blank : Item} (h : Item.builtin? tag = some blank)
    (types : ItemTypes) (scope : TypeScope) : types.createIn? scope tag = some blank := by
  cases scope with
  | builtin => exact h
  | host => rw [createIn?, create?, h]; rfl

open Xml (Content Element)

/-- The text of a piece of character data is the text, the empty one too, which is no piece at all. -/
theorem Xml.Content.texts_ofText (s : String) : (ofText s).texts = s := by
  unfold ofText
  split
  · next hs => rw [hs]; rfl
  · exact String.append_empty

/-- What a scalar writes into an element is read back from it. -/
theorem Scalar.parse_written {α : Type} {form : Scalar α} (h : form.ReadsBack) (tag n : String) (a : Assoc String)
    (value : α) : form.parse tag (Element.text ⟨n, a, .ofText (form.write value)⟩) = .ok value := by
  rw [Element.text, Content.texts_ofText, parse_write h]

/-- What an array writes is read back value by value. -/
theorem Scalar.parseAll_wrapped {α : Type} {form : Scalar α} (h : form.ReadsBack) (tag n : String)
    (a : Assoc String) (values : List α) :
    form.parseAll tag ⟨n, a, .wrapped "value" (values.map form.write)⟩ = .ok values := by
  unfold parseAll Element.children
  induction values with
  | nil => rfl
  | cons v values ih =>
    rw [List.map_cons, Content.wrapped, Content.elements, List.filter_cons_of_pos (by simp), List.mapM_cons,
      parse_written h, ih]
    rfl

namespace Item

variable {types : ItemTypes} {scope : TypeScope}

/-- Bytes are read back from their written form, around which there are no blanks to trim. -/
theorem readBlob_encode (n : String) (a : Assoc String) (bytes : List UInt8) :
    readBlob ⟨n, a, .ofText (String.ofList (Text.Base64.encode bytes))⟩ = .ok bytes := by
  rw [readBlob, Element.text, Content.texts_ofText, String.toList_ofList,
    Text.trimChars_of_not_blank (Text.Base64.isBlank_of_mem_encode bytes), Text.Base64.decode_encode]

/-- The three axes of a reading are found again, each under its own name. -/
theorem readAxis_axes (n : String) (a : Assoc String) (m : Measurement) :
    readAxis ⟨n, a, axes m⟩ "x" = .ok m.x ∧ readAxis ⟨n, a, axes m⟩ "y" = .ok m.y ∧
      readAxis ⟨n, a, axes m⟩ "z" = .ok m.z := by
  have hparse : ∀ (axis : String) (x : Number.Binary64),
      Scalar.double.parse "Xyz" (Element.text ⟨axis, [], .ofText x.text⟩) = .ok x :=
    fun axis x => Scalar.parse_written Scalar.double_readsBack "Xyz" axis [] x
  refine ⟨?_, ?_, ?_⟩ <;> simp [readAxis, axes, Content.child?, Content.elements, hparse]

/-- **The head of a record is read back**, if its time can be written with four digits of the year.  The name may be
any text. -/
theorem readRecordHead_written (name : String) {stamp : Time.Timestamp} (hvalid : stamp.IsValid)
    (hyear : stamp.IsWritable) (c : Content) :
    readRecordHead ⟨"record", [("name", name), ("timestamp", stamp.text)], c⟩ = .ok (name, stamp) := by
  have hread : Time.Timestamp.read? stamp.text = some stamp := by
    rw [Time.Timestamp.read?, Time.Timestamp.text, String.toList_ofList,
      Time.Timestamp.readChars?_chars hvalid hyear]
  simp [readRecordHead, Element.attribute?, Assoc.find?, hread]

/-- **What a blank record reads**: the name and the time, and the entries if there are any.  What the record held
before has no part in it. -/
theorem read_record (blank : String) (first : Time.Timestamp) (old : List (String × Item)) (e : Element) :
    (record blank first old scope).read types e =
      match e.body.child? "record" with
      | none => .error (.unexpectedElement "record" e.name)
      | some r => (readRecordHead r).map fun (name, stamp) =>
        record name stamp (((r.body.child? "dict").map fun d => readEntries types scope d.body []).getD []) scope := by
  rw [read]
  split
  · next h => rw [h]
  · next r hr =>
    rw [hr]
    simp only
    cases readRecordHead r with
    | error fault => rfl
    | ok head =>
      simp only [bind, Except.bind]
      split <;> next hd => rw [hd]; rfl

/-- The blank item of a type reads the content as the item. -/
def ReadsAs (types : ItemTypes) (scope : TypeScope) (tag : String) (c : Content) (item : Item) : Prop :=
  ∃ blank, types.createIn? scope tag = some blank ∧ ∀ n a, blank.read types ⟨n, a, c⟩ = .ok item

/-- An item that is one scalar. -/
theorem readsAs_text {α : Type} {form : Scalar α} (h : form.ReadsBack) {tag : String} (make : α → Item) {blank : Item}
    (hblank : builtin? tag = some blank)
    (hread : ∀ e, blank.read types e = form.parse tag e.text >>= fun value => pure (make value)) (value : α) :
    ReadsAs types scope tag (.ofText (form.write value)) (make value) := by
  refine ⟨blank, types.createIn?_of_builtin? hblank scope, fun n a => ?_⟩
  rw [hread, Scalar.parse_written h]
  rfl

/-- An item that is an array of scalars. -/
theorem readsAs_wrapped {α : Type} {form : Scalar α} (h : form.ReadsBack) {tag : String} (make : List α → Item)
    {blank : Item} (hblank : builtin? tag = some blank)
    (hread : ∀ e, blank.read types e = form.parseAll tag e >>= fun values => pure (make values)) (values : List α) :
    ReadsAs types scope tag (.wrapped "value" (values.map form.write)) (make values) := by
  refine ⟨blank, types.createIn?_of_builtin? hblank scope, fun n a => ?_⟩
  rw [hread, Scalar.parseAll_wrapped h]
  rfl

/-- An item that is a row of bytes. -/
theorem readsAs_blob (bytes : List UInt8) :
    ReadsAs types scope "blob" (.ofText (String.ofList (Text.Base64.encode bytes))) (blob bytes) := by
  refine ⟨_, types.createIn?_of_builtin? rfl scope, fun n a => ?_⟩
  rw [read, readBlob_encode]
  rfl

/-- An item that is a reading, if the types make blank ones. -/
theorem readsAs_xyz {first : Measurement} (hblank : types.createIn? scope "Xyz" = some (xyz first)) (m : Measurement) :
    ReadsAs types scope "Xyz" (axes m) (xyz m) := by
  refine ⟨_, hblank, fun n a => ?_⟩
  obtain ⟨hx, hy, hz⟩ := readAxis_axes n a m
  rw [read, hx, hy, hz]
  rfl

/-- A record is read back if its entries are. -/
theorem readsAs_record (hcovers : types.Covers scope) (name : String) {stamp : Time.Timestamp}
    (hvalid : stamp.IsValid) (hyear : stamp.IsWritable) {c : Content} {entries : List (String × Item)}
    (hentries : readEntries types scope c [] = entries) :
    ReadsAs types scope "CalibRecord"
      (.element "record" [("name", name), ("timestamp", stamp.text)] (.element "dict" [] c .nil) .nil)
      (record name stamp entries scope) := by
  obtain ⟨_, _, _, hblank⟩ := hcovers.record
  refine ⟨_, hblank, fun n a => ?_⟩
  rw [read_record]
  change (readRecordHead ⟨"record", _, _⟩).map _ = _
  rw [readRecordHead_written name hvalid hyear, ← hentries]
  rfl

/-- An entry that is read is written behind those that were there.  Here the keys have to differ: an entry under a key
that is there would take its place. -/
theorem readEntry_of_readsAs {key tag : String} {c : Content} {item : Item} {earlier : Assoc Item}
    (hread : ReadsAs types scope tag c item) (hkey : key ∉ earlier.keys) :
    readEntry types scope ⟨"item", [("key", key), ("type", tag)], c⟩ earlier = earlier ++ [(key, item)] := by
  obtain ⟨blank, hblank, hread⟩ := hread
  have hkeyOf : Element.attribute? ⟨"item", [("key", key), ("type", tag)], c⟩ "key" = some key := rfl
  have htypeOf : Element.attribute? ⟨"item", [("key", key), ("type", tag)], c⟩ "type" = some tag := rfl
  rw [readEntry, if_pos rfl, hkeyOf, htypeOf]
  simp only [hblank, hread]
  exact Assoc.set_of_not_mem earlier hkey item

mutual

/-- **What an item writes is read back by the blank item of its type.**  The scalars and arrays have their own laws; a
record is read back by the other half of the induction. -/
theorem readsAs_of_write (hcovers : types.Covers scope) : (item : Item) → item.IsStorable → item.isSerializable →
    (c : Content) → item.write = .ok c → ReadsAs types scope item.tag c (item.kept scope)
  | bool value false, _, _, c, hc =>
    Except.ok.inj hc ▸ readsAs_text Scalar.bool_readsBack (bool ·) rfl (fun e => by rw [read]; rfl) value
  | int value false, _, _, c, hc =>
    Except.ok.inj hc ▸ readsAs_text Scalar.int_readsBack (int ·) rfl (fun e => by rw [read]; rfl) value
  | double value false, _, _, c, hc =>
    Except.ok.inj hc ▸ readsAs_text Scalar.double_readsBack (double ·) rfl (fun e => by rw [read]; rfl) value
  | string value false, _, _, c, hc =>
    Except.ok.inj hc ▸ readsAs_text Scalar.string_readsBack (string ·) rfl (fun e => by rw [read]; rfl) value
  | blob bytes, _, _, c, hc => Except.ok.inj hc ▸ readsAs_blob bytes
  | intArray values, _, _, c, hc =>
    Except.ok.inj hc ▸ readsAs_wrapped Scalar.int_readsBack intArray rfl (fun e => by rw [read]; rfl) values
  | doubleArray values, _, _, c, hc =>
    Except.ok.inj hc ▸ readsAs_wrapped Scalar.double_readsBack doubleArray rfl (fun e => by rw [read]; rfl) values
  | stringArray values, _, _, c, hc =>
    Except.ok.inj hc ▸ readsAs_wrapped Scalar.string_readsBack stringArray rfl (fun e => by rw [read]; rfl) values
  | xyz m, _, _, c, hc => by
    obtain ⟨first, hblank⟩ := hcovers.reading
    exact Except.ok.inj hc ▸ readsAs_xyz hblank m
  | record name stamp entries _, h, _, c, hc => by
    obtain ⟨hvalid, hyear, hkeys, hstorable⟩ := h
    rw [write] at hc
    obtain ⟨content, hcontent, hc⟩ := bind_eq_ok_iff.1 hc
    obtain rfl := Except.ok.inj hc
    exact readsAs_record hcovers name hvalid hyear
      (readEntries_written hcovers entries hstorable content hcontent [] hkeys)
  | custom _, h, _, _, _ => h.elim

/-- **The entries that were written are read back**, behind those that were there.  Transient ones are not written,
and are missing in what is kept. -/
theorem readEntries_written (hcovers : types.Covers scope) : (entries : List (String × Item)) → AreStorable entries →
    (c : Content) → writeEntries entries = .ok c → (earlier : Assoc Item) → (earlier ++ entries).keys.Nodup →
    readEntries types scope c earlier = earlier ++ keptEntries scope entries
  | [], _, c, hc, earlier, _ => by
    obtain rfl := Except.ok.inj hc
    rw [readEntries, keptEntries, List.append_nil]
  | (key, item) :: rest, h, c, hc, earlier, hkeys => by
    have hafter : (earlier ++ [(key, item.kept scope)] ++ rest).keys.Nodup := by
      simpa [Assoc.keys] using hkeys
    have hmiddle : (earlier.keys ++ key :: Assoc.keys rest).Nodup := by
      simpa [Assoc.keys] using hkeys
    obtain ⟨hother, hnodup⟩ := List.nodup_cons.1 (List.perm_middle.nodup_iff.1 hmiddle)
    have hkey : key ∉ earlier.keys := fun h => hother (List.mem_append_left _ h)
    have hwithout : (earlier ++ rest).keys.Nodup := by
      simpa [Assoc.keys] using hnodup
    rw [keptEntries]
    rcases writeEntries_cons_cases hc with ⟨hs, content, more, hcontent, hmore, rfl⟩ | ⟨hs, hc⟩
    · have hread := readsAs_of_write hcovers item h.1 hs content hcontent
      rw [readEntries, readEntry_of_readsAs hread hkey, if_pos hs,
        readEntries_written hcovers rest h.2 more hmore _ hafter, List.append_assoc]
      rfl
    · rw [if_neg hs]
      exact readEntries_written hcovers rest h.2 c hc earlier hwithout

end

end Item
end Calibration
