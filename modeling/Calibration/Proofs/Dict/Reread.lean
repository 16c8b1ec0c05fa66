/-
# Records are saved and loaded again

The document of a dict that was read is read as what is left of the dict (`ofXml_reread`), and so is the file that it
was saved in (`load_saved`): every item without parts of a plugin's own type is kept as it is, but for records whose
year has not four digits.

Items of plugins' own types may stand between the others.  What they write may be changed by being read, or refused,
but it stays within their elements: at each other key stands what is left of the item that stood there
(`get?_reread`).
-/

import Calibration.Dict.File
import Calibration.Proofs.Dict.RoundTrip
import Calibration.Proofs.Files.Saved
import Calibration.Proofs.Item.Reread

namespace Calibration

open Xml (Content Element)

/-! ### One key among others -/

namespace Item

variable {types : ItemTypes} {scope : TypeScope} {entries : List (String × Item)} {key : String} {c : Content}
  {e : Element}

/-- An entry is read under the key of its element. -/
theorem attribute?_of_readable? {p : String × Item} (h : readable? types scope e = some p) :
    e.attribute? "key" = some p.1 := by
  rw [readable?] at h
  split_ifs at h
  simp only [Option.bind_eq_bind, Option.bind_eq_some_iff] at h
  obtain ⟨k, hk, _, -, _, -, _, -, hp⟩ := h
  obtain rfl := Option.some.inj hp
  exact hk

/-- The last entry for a key in a row of elements is that of the first element, if the key is its own and no later
element has it. -/
theorem lastWrite?_readable?_cons {k : String} (he : e.attribute? "key" = some k) (es : List Element) :
    Assoc.lastWrite? ((e :: es).filterMap (readable? types scope)) key =
      (Assoc.lastWrite? (es.filterMap (readable? types scope)) key).or
        (if k = key then (readable? types scope e).map Prod.snd else none) := by
  cases h : readable? types scope e with
  | none => rw [List.filterMap_cons_none h, Option.map_none, ite_self, Option.or_none]
  | some p =>
    obtain rfl := Option.some.inj (he.symm.trans (attribute?_of_readable? h))
    rw [List.filterMap_cons_some h, Assoc.lastWrite?_cons, Option.map_some]

/-- No entry is read for a key that has not been written, whatever the other items have written. -/
theorem lastWrite?_written_of_not_mem (hkey : key ∉ Assoc.keys entries) (hc : writeEntries entries = .ok c) :
    Assoc.lastWrite? ((c.elements.map Element.normal).filterMap (readable? types scope)) key = none := by
  induction entries generalizing c with
  | nil =>
    obtain rfl := Except.ok.inj hc
    rfl
  | cons p entries ih =>
    obtain ⟨k, item⟩ := p
    obtain ⟨hne, hrest⟩ := not_or.1 (mt List.mem_cons.2 hkey)
    rcases writeEntries_cons_cases hc with ⟨-, content, more, -, hmore, rfl⟩ | ⟨-, hc⟩
    · rw [Content.elements, List.map_cons, lastWrite?_readable?_cons rfl, ih hrest hmore, if_neg (Ne.symm hne)]
      rfl
    · exact ih hrest hc

/-- **What is read at a key is what its own item has written.**  The element of an item without parts of a plugin's own
type is in normal form, so that it is read as it was written; the elements of the others come in normal form, and
stay under their own keys. -/
theorem lastWrite?_written (hfaithful : types.IsFaithful) (hnodup : (Assoc.keys entries).Nodup)
    (hc : writeEntries entries = .ok c) {item : Item} (hitem : Assoc.find? entries key = some item)
    (hreadable : IsReadable types scope item) (hown : item.IsOwn) :
    Assoc.lastWrite? ((c.elements.map Element.normal).filterMap (readable? types scope)) key = item.reread? := by
  induction entries generalizing c with
  | nil => exact nomatch hitem
  | cons p entries ih =>
    obtain ⟨k, first⟩ := p
    obtain ⟨hk, hrest⟩ := List.nodup_cons.1 hnodup
    rw [Assoc.find?] at hitem
    by_cases hkey : k = key
    · obtain rfl := Option.some.inj ((if_pos hkey).symm.trans hitem)
      have hs := isSerializable_of_isReadable hreadable hown
      obtain ⟨-, content, more, hcontent, hmore, rfl⟩ := (writeEntries_cons_cases hc).resolve_right fun h => h.1 hs
      have hnormal : Element.normal ⟨"item", [("key", k), ("type", first.tag)], content⟩ = ⟨_, _, content⟩ :=
        Element.normal_eq_self_iff.2 (isStored_of_write first hown content hcontent).isNormal
      have hread := readable?_written k (rereadsAs_of_write hfaithful scope first hreadable hown hs content hcontent)
      rw [Content.elements, List.map_cons, lastWrite?_readable?_cons rfl, if_pos hkey,
        lastWrite?_written_of_not_mem (hkey ▸ hk) hmore, hnormal, hread, Option.none_or, Option.map_map]
      exact congrFun Option.map_id _
    · rw [if_neg hkey] at hitem
      rcases writeEntries_cons_cases hc with ⟨-, content, more, -, hmore, rfl⟩ | ⟨-, hc⟩
      · rw [Content.elements, List.map_cons, lastWrite?_readable?_cons rfl, ih hrest hmore hitem, if_neg hkey,
          Option.or_none]
      · exact ih hrest hc hitem

end Item

/-! ### Documents and files -/

namespace Dict

variable {types : ItemTypes} {scope : TypeScope} {d : Dict}

/-- What a document holds is read by the types of the scope. -/
theorem of_ofXml {text : String} (h : ofXml types scope text = .ok d) :
    ∃ c, d = { entries := Item.readEntries types scope c [], scope } := by
  rw [ofXml, mergeXml] at h
  split at h
  · next e heq =>
    rw [merge] at h
    split_ifs at h
    exact ⟨e.body, (Except.ok.inj h).symm⟩
  · cases h

/-- What a dict has written: the content of its entries, in an element of a dict. -/
theorem of_toXml {saved : String} (h : d.toXml = .ok saved) :
    ∃ c, Item.writeEntries d.entries = .ok c ∧ saved = Element.render ⟨"dict", [], c⟩ := by
  obtain ⟨e, he, hsaved⟩ := bind_eq_ok_iff.1 h
  obtain ⟨c, hc, he⟩ := bind_eq_ok_iff.1 he
  obtain rfl := Except.ok.inj he
  exact ⟨c, hc, (Except.ok.inj hsaved).symm⟩

/-- **A dict that was read is written and read again**, if no item in it has a part of a plugin's own type: what is left
of its entries, in order. -/
theorem ofXml_reread (hfaithful : types.IsFaithful) {text saved : String} (hd : ofXml types scope text = .ok d)
    (hown : Item.AreOwn d.entries) (hsaved : d.toXml = .ok saved) :
    ofXml types scope saved = .ok { entries := Item.rereadEntries d.entries, scope } := by
  obtain ⟨source, rfl⟩ := of_ofXml hd
  obtain ⟨c, hc, rfl⟩ := of_toXml hsaved
  have hreadable : ∀ p ∈ Item.readEntries types scope source [], Item.IsReadable types scope p.2 :=
    fun p hp => Item.isReadable_of_mem_readEntries hfaithful hp
  have hkeys := (Item.keys_rereadEntries_sublist _).nodup (Item.nodup_keys_readEntries types scope source)
  rw [ofXml, mergeXml, parse_render_of_writeEntries hown hc]
  simp only [merge, if_pos]
  rw [Item.readEntries_eq_setAll, Item.readables_written hfaithful scope _ hreadable hown c hc,
    Assoc.setAll_of_nodup [] hkeys]
  rfl

/-- **A dict that was read is written and read again, key by key.**  Whatever stands at the other keys, an item without
parts of a plugin's own type comes back as what is left of it; if the others are of plugins' types, they need only write
names. -/
theorem get?_reread (hfaithful : types.IsFaithful) {text saved : String} (hd : ofXml types scope text = .ok d)
    (hnames : Item.AreOwn d.entries ∨ types.WritesNames) (hsaved : d.toXml = .ok saved) :
    ∃ again, ofXml types scope saved = .ok again ∧
      ∀ key item, d.get? key = some item → item.IsOwn → again.get? key = item.reread? := by
  obtain ⟨source, rfl⟩ := of_ofXml hd
  obtain ⟨c, hc, rfl⟩ := of_toXml hsaved
  have hreadable : ∀ p ∈ Item.readEntries types scope source [], Item.IsReadable types scope p.2 :=
    fun p hp => Item.isReadable_of_mem_readEntries hfaithful hp
  have hc' : c.IsNamed := by
    rcases hnames with hown | hnames
    · exact (Item.isRow_of_writeEntries _ hown c hc).isNamed
    · exact Item.isNamed_of_writeEntries hfaithful hnames scope _ hreadable c hc
  refine ⟨{ entries := Item.readEntries types scope c.normal [], scope }, ?_, fun key item hitem hown => ?_⟩
  · rw [ofXml, mergeXml, Element.parse_render (isNamed_dict hc')]
    rfl
  · have hmem : (key, item) ∈ Item.readEntries types scope source [] := Assoc.mem_of_find? _ hitem
    rw [get?, Item.readEntries_eq_setAll, Assoc.find?_setAll, Item.readables, Content.elements_normal,
      Item.lastWrite?_written hfaithful (Item.nodup_keys_readEntries types scope source) hc hitem
        (hreadable _ hmem) hown]
    exact Option.or_none

/-- **A file that was saved is loaded as the document that was saved**, into whatever dict.  The text in between is
the same to the letter. -/
theorem load_saved (types : ItemTypes) {files files' : Files} {path : String}
    (h : d.save files path = (.ok (), files')) :
    ∃ saved, d.toXml = .ok saved ∧ ∀ d' : Dict, d'.load types files' path = d'.mergeXml types saved := by
  rw [save] at h
  split at h
  · exact nomatch h
  · next saved hsaved =>
    obtain ⟨hresult, hfiles⟩ := Prod.mk.inj h
    have hfile : files.save path saved = (.ok (), files') := Prod.ext (mapError_eq_ok_iff.1 hresult) hfiles
    refine ⟨saved, hsaved, fun d' => ?_⟩
    rw [load, Files.readText_save hfile]

/-- What is loaded from a file into an empty dict is read from a text. -/
theorem ofXml_of_load {files : Files} {path : String} (h : ({ scope } : Dict).load types files path = .ok d) :
    ∃ text, ofXml types scope text = .ok d := by
  rw [load] at h
  split at h
  · exact nomatch h
  · next text _ => exact ⟨text, h⟩

/-- **What is left of records that are saved and loaded again.**  A record without parts of a plugin's own type, as it
was read from whatever element, is written, and the element that it wrote is read as the same record exactly if the
years of all its times have four digits.  So it is with the file of a dict that was loaded: the dict is written if none
of its items has a part of a plugin's own type, and at the key of each such item the saved file holds the same item
again, but for the records that have other years.  What else the dict holds makes no difference, if it writes names. -/
theorem reread_iff_isDated (hfaithful : types.IsFaithful) :
    (∀ scope name stamp entries e item,
      (Item.record name stamp entries scope).read types e = .ok item → item.IsOwn →
        ∃ c, item.write = .ok c ∧
          ∀ n a, (Item.record name stamp entries scope).read types ⟨n, a, c⟩ = .ok item ↔ item.IsDated) ∧
    ∀ scope files path d, ({ scope } : Dict).load types files path = .ok d →
      (Item.AreOwn d.entries → d.toXml.isOk) ∧
      (Item.AreOwn d.entries ∨ types.WritesNames → ∀ path' files', d.save files path' = (.ok (), files') →
        ∃ d', ({ scope } : Dict).load types files' path' = .ok d' ∧
          ∀ key item, d.get? key = some item → item.IsOwn → (d'.get? key = some item ↔ item.IsDated)) := by
  constructor
  · intro scope name stamp entries e item hread hown
    obtain ⟨c, hc⟩ := Item.exists_write_of_isOwn item hown
    refine ⟨c, hc, fun n a => ?_⟩
    obtain ⟨name', stamp', source, -, rfl⟩ := Item.of_read_record hread
    have hagain := Item.reread_record hread (fun content hcontent =>
      Item.readables_written hfaithful scope _ (fun p hp => Item.isReadable_of_mem_readEntries hfaithful hp) hown
        content hcontent) hc n a
    rw [← Item.reread?_eq_self_iff _ hown, ← hagain, toOption_eq_some_iff]
  · intro scope files path d hload
    obtain ⟨text, hd⟩ := ofXml_of_load hload
    constructor
    · intro hown
      obtain ⟨c, hc⟩ := Item.exists_writeEntries_of_areOwn d.entries hown
      rw [toXml, toElement, hc]
      rfl
    · intro hnames path' files' hsave
      obtain ⟨saved, hsaved, hloadSaved⟩ := load_saved types hsave
      obtain ⟨again, hagain, hkeys⟩ := get?_reread hfaithful hd hnames hsaved
      refine ⟨again, (hloadSaved _).trans hagain, fun key item hitem hown => ?_⟩
      rw [hkeys key item hitem hown]
      exact Item.reread?_eq_self_iff item hown

/-- Readings, and records whose entries are of the same types. -/
def labTypes : ItemTypes := [("Sensor", Factory.readings), ("Store", Factory.records .host)]

/-- Both factories make what they are asked for. -/
theorem isFaithful_labTypes : labTypes.IsFaithful := by
  refine ItemTypes.isFaithful_of_factories fun p hp => ?_
  rcases List.mem_cons.1 hp with rfl | hp
  · exact Factory.isFaithful_readings
  · obtain rfl := List.mem_singleton.1 hp
    exact Factory.isFaithful_records .host

/-- A record of a leap second in local time, in which there are a number and an older record. -/
def nightElement : Element :=
  ⟨"item", [], .element "record" [("name", "night"), ("timestamp", "2016-12-31T20:59:60.5-03:00")]
    (.element "dict" []
      (.element "item" [("key", "gain"), ("type", "int")] (.text " 3 " .nil)
        (.element "item" [("key", "dusk"), ("type", "CalibRecord")]
          (.element "record" [("name", "dusk"), ("timestamp", "2016-12-31 18:00:00Z")] .nil .nil) .nil)) .nil) .nil⟩

/-- What the element holds. -/
def night : Item :=
  .record "night" ⟨17166, 86399, 1500000000⟩ [("gain", .int 3), ("dusk", .record "dusk" ⟨17166, 64800, 0⟩ [] .host)]
    .host

/-- The time in local terms is read as the instant, the leap second with it, and the entries as their types say. -/
theorem read_nightElement : (Item.blankRecord .host).read labTypes nightElement = .ok night := by
  have hint : labTypes.createIn? .host "int" = some (.int 0) := rfl
  have hrecord : labTypes.createIn? .host "CalibRecord" = some (.record "" .epoch [] .host) := rfl
  have hvalue : Scalar.int.parse "int" " 3 " = .ok 3 := by decide +kernel
  have hdusk : Time.Timestamp.read? "2016-12-31 18:00:00Z" = some ⟨17166, 64800, 0⟩ := by decide +kernel
  have hnight : Time.Timestamp.read? "2016-12-31T20:59:60.5-03:00" = some ⟨17166, 86399, 1500000000⟩ := by
    decide +kernel
  simp [nightElement, night, Item.blankRecord, Item.read_record, Item.readRecordHead, Item.readEntries, Item.readEntry,
    Item.read, Content.child?, Content.elements, Content.texts, Element.attribute?, Element.text, Assoc.find?,
    Assoc.set, Except.map, hint, hrecord, hvalue, hdusk, hnight]

/-- Swatches are read from texts, and write an element that is no swatch any more. -/
def swatch : Custom where
  tag := "Swatch"
  value := ""
  format :=
    { isSerializable := fun _ => true
      write := fun value => .ok (.element "shade" [("name", value)] .nil .nil)
      read := fun _ e => if e.text = "" then .error (.invalidValue "Swatch" "") else .ok e.text }

/-- Labels are texts. -/
def label : Custom where
  tag := "Label"
  value := ""

/-- The same types, and swatches and labels. -/
def studioTypes : ItemTypes := labTypes ++ [("Swatches", Factory.copies [swatch, label])]

/-- So do all three factories. -/
theorem isFaithful_studioTypes : studioTypes.IsFaithful := by
  refine ItemTypes.isFaithful_of_factories fun p hp => ?_
  simp only [studioTypes, labTypes, List.cons_append, List.nil_append, List.mem_cons, List.not_mem_nil, or_false] at hp
  rcases hp with rfl | rfl | rfl
  · exact Factory.isFaithful_readings
  · exact Factory.isFaithful_records .host
  · exact Factory.isFaithful_copies [swatch, label]

/-- The element of a swatch has a name, whatever shade it is of, and a label has no elements. -/
theorem writesNames_studioTypes : studioTypes.WritesNames := by
  refine ItemTypes.writesNames_of_factories fun p hp tag own hown => ?_
  simp only [studioTypes, labTypes, List.cons_append, List.nil_append, List.mem_cons, List.not_mem_nil, or_false] at hp
  rcases hp with rfl | rfl | rfl
  · simp [Factory.readings, Item.blankXyz] at hown
  · simp [Factory.records, Item.blankRecord] at hown
  · obtain ⟨made, hmade, hsame⟩ := Option.map_eq_some_iff.1 hown
    obtain rfl := Item.custom.inj hsame
    rcases List.mem_cons.1 (List.mem_of_find?_eq_some hmade) with rfl | hmade
    · intro value c hc
      exact Except.ok.inj hc ▸ ⟨by decide, (by decide : ∀ k ∈ ["name"], Xml.isName k), (by decide : ["name"].Nodup),
        trivial, trivial⟩
    · obtain rfl := List.mem_singleton.1 hmade
      exact Custom.writesNames_of_text rfl

/-- A file with a dict of a record and a swatch. -/
def duskFiles : Files where
  nodes := [(["d"], .file (.text ("<dict><item key='dusk' type='CalibRecord'>" ++
    "<record name='dusk' timestamp='2016-12-31 18:00:00Z'/></item>" ++
    "<item key='wall' type='Swatch'>ochre</item></dict>")))]

/-- The record in the file. -/
def dusk : Item := .record "dusk" ⟨17166, 64800, 0⟩ [] .host

/-- What the file holds. -/
def duskDict : Dict where
  entries := [("dusk", dusk), ("wall", .custom { swatch with value := "ochre" })]
  scope := .host

/-- The file is loaded, record and swatch. -/
theorem load_dusk : ({ scope := .host } : Dict).load studioTypes duskFiles "d" = .ok duskDict := by
  have hfile : (duskFiles.readText "d").toOption.map Xml.parse = some (.ok ⟨"dict", [], .element "item"
      [("key", "dusk"), ("type", "CalibRecord")]
        (.element "record" [("name", "dusk"), ("timestamp", "2016-12-31 18:00:00Z")] .nil .nil)
      (.element "item" [("key", "wall"), ("type", "Swatch")] (.text "ochre" .nil) .nil)⟩) := by
    decide +kernel
  obtain ⟨text, htext, hparse⟩ := Option.map_eq_some_iff.1 hfile
  have hrecord : studioTypes.createIn? .host "CalibRecord" = some (.record "" .epoch [] .host) := rfl
  have hswatch : studioTypes.createIn? .host "Swatch" = some (.custom swatch) := rfl
  have hwall (n : String) (a : Assoc String) : (Item.custom swatch).read studioTypes ⟨n, a, .text "ochre" .nil⟩ =
      .ok (.custom { swatch with value := "ochre" }) := by
    simp [Item.read, Custom.read, swatch, ItemFormat.read, Element.text, Content.texts, Except.map]
  have hstamp : Time.Timestamp.read? "2016-12-31 18:00:00Z" = some ⟨17166, 64800, 0⟩ := by decide +kernel
  rw [load, toOption_eq_some_iff.1 htext]
  simp [mergeXml, hparse, merge, duskDict, dusk, Item.read_record, Item.readRecordHead, Item.readEntries,
    Item.readEntry, Content.child?, Content.elements, Element.attribute?, Assoc.find?, Assoc.set, Except.map, hrecord,
    hswatch, hwall, hstamp]

/-- The first record is written and read again, and the second is saved and loaded again, beside a swatch that is
not. -/
theorem night_and_dusk :
    (∃ c, night.write = .ok c ∧ (Item.blankRecord .host).read labTypes ⟨"item", [], c⟩ = .ok night) ∧
    studioTypes.WritesNames ∧
    ∃ files' d', duskDict.save duskFiles "again" = (.ok (), files') ∧
      ({ scope := .host } : Dict).load studioTypes files' "again" = .ok d' ∧ d'.get? "dusk" = some dusk := by
  obtain ⟨hrecord, -⟩ := reread_iff_isDated isFaithful_labTypes
  obtain ⟨-, hdict⟩ := reread_iff_isDated isFaithful_studioTypes
  refine ⟨?_, writesNames_studioTypes, ?_⟩
  · obtain ⟨c, hc, hagain⟩ := hrecord .host _ _ _ _ night read_nightElement ⟨trivial, trivial, trivial⟩
    exact ⟨c, hc, (hagain "item" []).2 ⟨by decide, trivial, ⟨by decide, trivial⟩, trivial⟩⟩
  · obtain ⟨-, hsaved⟩ := hdict .host _ _ _ load_dusk
    have hsave : (duskDict.save duskFiles "again").1 = .ok () := by decide +kernel
    obtain ⟨d', hload, hkept⟩ := hsaved (.inr writesNames_studioTypes) "again" _ (Prod.ext hsave rfl)
    exact ⟨_, d', Prod.ext hsave rfl, hload, (hkept "dusk" dusk rfl trivial).2 ⟨by decide, trivial⟩⟩

/-- **A record of the last hour of the year 9999**, in the time of a place in the west, is read and written, but what is
written is refused; in a dict it is lost when the dict is saved and loaded. -/
theorem last_hour_lost :
    let blank := Item.blankRecord .host
    let last := Item.record "last" ⟨2932897, 3599, 0⟩ [] .host
    (blank.read labTypes ⟨"item", [],
        .element "record" [("name", "last"), ("timestamp", "9999-12-31T23:59:59-01:00")] .nil .nil⟩ = .ok last ∧
      ∃ c, last.write = .ok c ∧
        ∀ n a, blank.read labTypes ⟨n, a, c⟩ = .error (.invalidValue "CalibRecord" "+10000-01-01T00:59:59+00:00")) ∧
    ofXml labTypes .host ("<dict><item key='last' type='CalibRecord'>" ++
        "<record name='last' timestamp='9999-12-31T23:59:59-01:00'/></item></dict>") =
      .ok { entries := [("last", last)], scope := .host } ∧
    ∃ saved, toXml { entries := [("last", last)], scope := .host } = .ok saved ∧
      ofXml labTypes .host saved = .ok { entries := [], scope := .host } := by
  intro blank last
  have hstamp : Time.Timestamp.read? "9999-12-31T23:59:59-01:00" = some ⟨2932897, 3599, 0⟩ := by decide +kernel
  have htext : Time.Timestamp.text ⟨2932897, 3599, 0⟩ = "+10000-01-01T00:59:59+00:00" := by decide +kernel
  have hread : ∀ n a, blank.read labTypes ⟨n, a,
      .element "record" [("name", "last"), ("timestamp", "9999-12-31T23:59:59-01:00")] .nil .nil⟩ = .ok last := by
    simp [blank, last, Item.blankRecord, Item.read_record, Item.readRecordHead, Content.child?, Content.elements,
      Element.attribute?, Assoc.find?, Except.map, hstamp]
  have hparse : Xml.parse ("<dict><item key='last' type='CalibRecord'>" ++
      "<record name='last' timestamp='9999-12-31T23:59:59-01:00'/></item></dict>") = .ok ⟨"dict", [], .element "item"
        [("key", "last"), ("type", "CalibRecord")]
        (.element "record" [("name", "last"), ("timestamp", "9999-12-31T23:59:59-01:00")] .nil .nil) .nil⟩ := by
    decide +kernel
  have hload : ofXml labTypes .host ("<dict><item key='last' type='CalibRecord'>" ++
      "<record name='last' timestamp='9999-12-31T23:59:59-01:00'/></item></dict>") =
        .ok { entries := [("last", last)], scope := .host } := by
    have hrecord : labTypes.createIn? .host "CalibRecord" = some blank := rfl
    rw [ofXml, mergeXml, hparse]
    simp [merge, Item.readEntries, Item.readEntry, Element.attribute?, Assoc.find?, Assoc.set, hrecord, hread]
  have hyear : ¬ Time.Timestamp.IsWritable ⟨2932897, 3599, 0⟩ := by decide
  refine ⟨⟨hread _ _, _, rfl, fun n a => ?_⟩, hload, _, rfl, ?_⟩
  · have hhead := Item.readRecordHead_of_not_isWritable "last" hyear (.element "dict" [] .nil .nil)
    rw [htext] at hhead ⊢
    simp [blank, Item.blankRecord, Item.read_record, Content.child?, Content.elements, hhead, Except.map]
  · rw [ofXml_reread isFaithful_labTypes hload ⟨trivial, trivial⟩ rfl]
    simp [Item.rereadEntries, Item.reread?, last, hyear]

end Dict
end Calibration
