/-
# Dicts are read back from their documents

A dict of items that documents can hold is written, and its document is read back as the dict of its serializable
entries, in their order and at every depth of records (`ofXml_toXml`): what the entries write is in normal form
already, so that the markup is read back as it was, and the entries are read from it one by one.
-/

import Calibration.Dict.Document
import Calibration.Proofs.Item.RoundTrip

namespace Calibration
namespace Dict

open Xml (Element)

/-- A document can hold the dict: no key stands twice, and the items can be written and read. -/
def IsStorable (d : Dict) : Prop := d.keys.Nodup ∧ Item.AreStorable d.entries

/-- The element of a dict has names if its content has. -/
theorem isNamed_dict {c : Xml.Content} (hc : c.IsNamed) : Element.IsNamed ⟨"dict", [], c⟩ :=
  ⟨(by decide : Xml.isName "dict"), nofun, List.nodup_nil, hc, trivial⟩

/-- **What the entries of a dict write is read back as it is**, if none of them has a part of a plugin's own type.  The
markup is then no concern any more: what is left to read are the items. -/
theorem parse_render_of_writeEntries {entries : List (String × Item)} {c : Xml.Content} (hown : Item.AreOwn entries)
    (hc : Item.writeEntries entries = .ok c) : Xml.parse (Element.render ⟨"dict", [], c⟩) = .ok ⟨"dict", [], c⟩ := by
  have hrow := Item.isRow_of_writeEntries entries hown c hc
  rw [Element.parse_render (isNamed_dict hrow.isNamed), Element.normal_eq_self_iff.2 hrow.isNormal]

/-- The element of a dict is written, and read back as it is. -/
theorem exists_toElement {d : Dict} (hd : Item.AreStorable d.entries) :
    ∃ e, d.toElement = .ok e ∧ e.name = "dict" ∧ Item.writeEntries d.entries = .ok e.body ∧
      Xml.parse e.render = .ok e := by
  have hown := Item.AreStorable.areOwn d.entries hd
  obtain ⟨c, hc⟩ := Item.exists_writeEntries_of_areOwn d.entries hown
  exact ⟨⟨"dict", [], c⟩, by rw [toElement, hc]; rfl, rfl, hc, parse_render_of_writeEntries hown hc⟩

/-- **A dict is read back from its document**: its serializable entries, in order, and so in every record.  The dict
that is read into is empty, so that each entry is put behind those before it. -/
theorem ofXml_toXml {types : ItemTypes} {scope : TypeScope} (hcovers : types.Covers scope) {d : Dict}
    (hd : d.IsStorable) : ∃ text, d.toXml = .ok text ∧ ofXml types scope text = .ok
      { entries := (d.entries.filter (·.2.isSerializable)).map fun (key, item) => (key, item.kept scope)
        scope } := by
  obtain ⟨e, he, hname, hbody, hparse⟩ := exists_toElement hd.2
  refine ⟨e.render, by rw [toXml, he]; rfl, ?_⟩
  rw [ofXml, mergeXml, hparse]
  simp only [merge, if_pos hname]
  rw [Item.readEntries_written hcovers d.entries hd.2 e.body hbody [] hd.1, Item.keptEntries_eq]
  rfl

/-- Entries under keys of markup and blanks, of which one is transient, and a record of a leap second. -/
def session : Dict where
  entries :=
    [("a<b & \"c\"", .string " \n "), ("", .string ""), ("live", .int 7 true),
      ("white", .xyz ⟨.zero, .nan, .infinite true⟩), ("raw", .blob [0, 255]),
      ("names", .stringArray ["", " ", "]]>"]),
      ("dark", .record "\tdark's" ⟨20000, 86399, 1500000000⟩
        [("gain", .double .nan), ("busy", .bool true true)] .builtin)]

/-- The record that is read back reads its entries by the types of the host. -/
theorem ofXml_toXml_session : ∃ text, session.toXml = .ok text ∧
    ofXml [("Sensor", Factory.readings), ("Store", Factory.records .host)] .host text = .ok
      { entries :=
          [("a<b & \"c\"", .string " \n "), ("", .string ""), ("white", .xyz ⟨.zero, .nan, .infinite true⟩),
            ("raw", .blob [0, 255]), ("names", .stringArray ["", " ", "]]>"]),
            ("dark", .record "\tdark's" ⟨20000, 86399, 1500000000⟩ [("gain", .double .nan)] .host)]
        scope := .host } :=
  ofXml_toXml ⟨⟨_, rfl⟩, _, _, _, rfl⟩
    ⟨by decide, trivial, trivial, trivial, trivial, trivial, trivial,
      ⟨⟨by decide, by decide, by decide⟩, ⟨by decide, by decide⟩, by decide, trivial, trivial, trivial⟩, trivial⟩

end Dict
end Calibration
