/-
# What the keeper of dicts does

The commands stand in the dict that a file is loaded into and a record is written into, but they are read once, before
the first step.  So each step is told by the commands in the dict as it was: `loaded` is the dict after the first step,
`Recorded` says what the second one changes, and `Saved` what the third one leaves in the files.  A step that fails ends
the run and keeps what was done before (`call_keeps_commands`).
-/

import Calibration.Builtin.DataSavior
import Calibration.Proofs.Assoc.Writes
import Calibration.Proofs.Chain.Code
import Calibration.Proofs.Files.Saved
import Calibration.Proofs.Item.Refusal
import Calibration.Proofs.Item.RoundTrip

namespace Calibration

/-- **A dict cannot be written exactly if one of the entries that would be written refuses**, at whatever depth.
Entries that are not kept are not asked. -/
theorem Dict.toXml_fails_iff {d : Dict} : (∃ fault, d.toXml = .error fault) ↔ Item.AnyRefuses d.entries := by
  rw [← Item.writeEntries_fails_iff, toXml, toElement]
  cases Item.writeEntries d.entries with
  | error fault => exact ⟨fun _ => ⟨fault, rfl⟩, fun _ => ⟨fault, rfl⟩⟩
  | ok content => constructor <;> rintro ⟨_, h⟩ <;> cases h

namespace DataSavior

open ChainCode

variable {ctx : RunContext} {table : TableRef} {r q : DictRef} {s s' : Store} {c : Commands} {d d' : Dict}

/-! ### The steps -/

/-- The dict with the file loaded, if one is asked for. -/
def loaded (types : ItemTypes) (c : Commands) (files : Files) (d : Dict) : Except DictError Dict :=
  match c.loadFile? with
  | some path => d.load types files path
  | none => .ok d

/-- The dict with the record taken, if one is asked for. -/
def recorded (now : Time.Timestamp) (c : Commands) (d : Dict) : Dict :=
  match c.recordName? with
  | some name => d.set name (record d name c.recordKeys now)
  | none => d

/-- The dict to save: the one with the name, or else the chain's. -/
def source? (table : TableRef) (r : DictRef) (c : Commands) (s : Store) : Option DictRef :=
  match c.sourceDict? with
  | some name => s.find? table name
  | none => some r

/-- The first step. -/
def loading (ctx : RunContext) (r : DictRef) (c : Commands) : ChainCode Unit :=
  match c.loadFile? with
  | some path => load ctx r path
  | none => pure ()

/-- The second step. -/
def recording (ctx : RunContext) (r : DictRef) (c : Commands) : ChainCode Unit :=
  match c.recordName? with
  | some name => do
    let d ← readDict r
    setItem r name (record d name c.recordKeys ctx.now)
  | none => pure ()

/-- The third step. -/
def saving (table : TableRef) (r : DictRef) (c : Commands) : ChainCode Unit :=
  match c.saveFile? with
  | some path => save table r c.sourceDict? path
  | none => pure ()

/-- **All steps go by the commands that were there at first.**  The run reads the dict before the first step and no
command after it; that is seen here from the program alone. -/
theorem run_eq (table : TableRef) (ctx : RunContext) :
    run table ctx = (do
      let r ← ctx.dict
      let d ← readDict r
      loading ctx r (commands d)
      checkpoint
      recording ctx r (commands d)
      checkpoint
      saving table r (commands d)) := by
  unfold run
  refine bind_congr fun r => bind_congr fun d => ?_
  unfold loading recording saving
  obtain ⟨loadFile?, recordName?, recordKeys, saveFile?, sourceDict?⟩ := commands d
  cases loadFile? <;> cases recordName? <;> cases saveFile? <;> rfl

/-- A file that can be loaded is loaded: the first step ends well and leaves the loaded dict in the place of the old
one. Where no file is asked for it does nothing, and `loaded` says so too. -/
theorem ends_loading (hr : r < s.dicts.length) (h : loaded ctx.types c s.files (s.dict r) = .ok d) :
    Ends (loading ctx r c) s (.ok ()) (s.setDict r d) := by
  rw [loading]
  rw [loaded] at h
  cases hfile : c.loadFile? with
  | none =>
    rw [hfile] at h
    rw [← Except.ok.inj h, Store.setDict_dict hr]
    exact ends_pure ()
  | some path =>
    rw [hfile] at h
    have hread := ends_ofExcept (s := s) (((s.dict r).load ctx.types s.files path).mapError .dict)
    simp only at h
    rw [h] at hread
    exact ends_store.bind (Ends.bind (by rw [h]; exact hread) (ends_onStore _))

/-- A file that cannot be loaded ends the first step, and with it the run; the store is the one that it was. -/
theorem ends_loading_error {fault : DictError} (h : loaded ctx.types c s.files (s.dict r) = .error fault) :
    Ends (loading ctx r c) s (.error (.failed (.dict fault))) s := by
  rw [loaded] at h
  rw [loading]
  cases hfile : c.loadFile? with
  | none =>
    rw [hfile] at h
    exact nomatch h
  | some path =>
    rw [hfile] at h
    have hread := ends_ofExcept (s := s) (((s.dict r).load ctx.types s.files path).mapError .dict)
    simp only at h
    rw [h] at hread
    exact ends_store.bind (Ends.bind_error (by rw [h]; exact hread))

/-- Between the steps a run that is not cancelled goes on. -/
theorem ends_checkpoint : Ends checkpoint s (.ok ()) s := ends_isCancelled.bind (ends_pure ())

/-- The second step ends well in any case, and sets one item at most. -/
theorem ends_recording (hr : r < s.dicts.length) :
    Ends (recording ctx r c) s (.ok ()) (s.setDict r (recorded ctx.now c (s.dict r))) := by
  rw [recording, recorded]
  cases c.recordName? with
  | none =>
    simp only [Store.setDict_dict hr]
    exact ends_pure ()
  | some name => exact (ends_readDict r).bind (ends_setItem r name _)

/-- The third step fails where the dict that it is to save is not there, and no file is touched. -/
theorem ends_saving_of_missing {path name : String} (hpath : c.saveFile? = some path)
    (hname : c.sourceDict? = some name) (hmissing : s.find? table name = none) :
    Ends (saving table r c) s (.error (.failed (.config ("no dict '" ++ name ++ "'")))) s := by
  simp only [saving, hpath, hname, save]
  refine ends_store.bind ?_
  simp only [hmissing]
  exact (ends_fail _).bind_error

/-- Where the dict is there, the third step is to save it: the result and the files are those of `Dict.save`, and no
dict is changed. -/
theorem ends_saving {path : String} (hpath : c.saveFile? = some path) (hsource : source? table r c s = some q) :
    Ends (saving table r c) s ((((s.dict q).save s.files path).1.mapError .dict).mapError .failed)
      { s with files := ((s.dict q).save s.files path).2 } := by
  have hsaved := ends_ofExcept (s := { s with files := ((s.dict q).save s.files path).2 })
    (((s.dict q).save s.files path).1.mapError .dict)
  rw [source?] at hsource
  cases hname : c.sourceDict? with
  | none =>
    rw [hname] at hsource
    obtain rfl := Option.some.inj hsource
    simp only [saving, hpath, hname, save]
    exact ends_store.bind ((ends_pure r).bind ((ends_onStore _).bind hsaved))
  | some name =>
    rw [hname] at hsource
    simp only at hsource
    simp only [saving, hpath, hname, save]
    refine ends_store.bind ?_
    simp only [hsource]
    exact (ends_pure q).bind ((ends_onStore _).bind hsaved)

/-! ### What the steps make of dicts and files -/

/-- A record is taken of listed items: nothing changes but the item at the name of the record.  It is a record of that
name with copies of those of the items that are there, each once and in the order in which they are listed first, and it
reads items in the scope of the dict. -/
structure Takes (now : Time.Timestamp) (name : String) (listed : List String) (d d' : Dict) : Prop where
  record : ∃ data : Assoc Item, d'.get? name = some (.record name now data d.scope) ∧
    data.keys = (listed.filter (· ∈ d.keys)).eraseDups ∧
    ∀ key, data.find? key = if key ∈ listed then d.get? key else none
  others : ∀ key, key ≠ name → d'.get? key = d.get? key
  keys : d'.keys = if name ∈ d.keys then d.keys else d.keys ++ [name]
  scope : d'.scope = d.scope

/-- **A record is taken by setting one item**, and all that `Takes` says follows from what a write and a row of copies
do. -/
theorem takes_set (now : Time.Timestamp) (name : String) (listed : List String) (d : Dict) :
    Takes now name listed d (d.set name (record d name listed now)) where
  record := by
    refine ⟨Assoc.copyFrom [] d.entries listed, (Assoc.find?_set ..).trans (if_pos rfl), ?_, fun key => ?_⟩
    · rw [Assoc.keys_copyFrom, List.filter_eq_self.2 fun _ _ => by simp [Assoc.keys]]
      rfl
    · rw [Assoc.find?_copyFrom]
      exact Option.or_none
  others _ hkey := (Assoc.find?_set ..).trans (if_neg (Ne.symm hkey))
  keys := Assoc.keys_set ..
  scope := rfl

/-- What the record step makes of a dict. -/
def Recorded (now : Time.Timestamp) (c : Commands) (d d' : Dict) : Prop :=
  match c.recordName? with
  | some name => Takes now name c.recordKeys d d'
  | none => d' = d

/-- What the second step sets is what `Recorded` says, with a record or without. -/
theorem recorded_recorded (now : Time.Timestamp) (c : Commands) (d : Dict) : Recorded now c d (recorded now c d) := by
  rw [Recorded, recorded]
  cases c.recordName? with
  | none => rfl
  | some name => exact takes_set now name c.recordKeys d

/-- The save step fails and leaves all files as they were, if the dict to save is missing or an entry that would be
written refuses; otherwise it writes the document of that dict. -/
structure Saved (table : TableRef) (r : DictRef) (c : Commands) (path : String) (s : Store)
    (result : Except PluginError Unit) (after : Store) : Prop where
  missing : ∀ name, c.sourceDict? = some name → s.find? table name = none →
    result = .error (.config ("no dict '" ++ name ++ "'")) ∧ after = s
  refused : ∀ q, source? table r c s = some q → Item.AnyRefuses (s.dict q).entries →
    (∃ fault, result = .error (.dict fault)) ∧ after = s
  written : ∀ q, source? table r c s = some q → ¬ Item.AnyRefuses (s.dict q).entries →
    ∃ xml, (s.dict q).toXml = .ok xml ∧ after = { s with files := (s.files.save path xml).2 } ∧
      result = ((s.files.save path xml).1.mapError fun fault => .dict (.file fault)) ∧
      (result = .ok () → after.files.readText path = .ok xml)

/-- A save step without its dict is as `Saved` says: it has the one case of a dict that is missing. -/
theorem saved_of_missing {path name : String} (hname : c.sourceDict? = some name)
    (hmissing : s.find? table name = none) :
    Saved table r c path s (.error (.config ("no dict '" ++ name ++ "'"))) s := by
  have hsource : source? table r c s = none := by rw [source?, hname]; exact hmissing
  refine ⟨?_, fun q hq => ?_, fun q hq => ?_⟩
  · rintro _ h -
    obtain rfl := Option.some.inj (hname.symm.trans h)
    exact ⟨rfl, rfl⟩
  · exact nomatch hsource.symm.trans hq
  · exact nomatch hsource.symm.trans hq

/-- A save step with its dict is as `Saved` says: refused before any file is touched, or written as the dict's
document. -/
theorem saved_of_source {path : String} (hsource : source? table r c s = some q) :
    Saved table r c path s (((s.dict q).save s.files path).1.mapError .dict)
      { s with files := ((s.dict q).save s.files path).2 } where
  missing name hname hmissing := by
    rw [source?, hname] at hsource
    exact nomatch hmissing.symm.trans hsource
  refused p hp hrefuses := by
    obtain rfl := Option.some.inj (hsource.symm.trans hp)
    obtain ⟨fault, hfault⟩ := Dict.toXml_fails_iff.2 hrefuses
    rw [Dict.save, hfault]
    exact ⟨⟨fault, rfl⟩, rfl⟩
  written p hp hrefuses := by
    obtain rfl := Option.some.inj (hsource.symm.trans hp)
    cases hxml : (s.dict q).toXml with
    | error fault => exact absurd (Dict.toXml_fails_iff.1 ⟨fault, hxml⟩) hrefuses
    | ok xml =>
      rw [Dict.save, hxml]
      refine ⟨xml, rfl, rfl, mapError_mapError .., fun hok => ?_⟩
      have hsaved : (s.files.save path xml).1 = .ok () := mapError_eq_ok_iff.1 (mapError_eq_ok_iff.1 hok)
      exact Files.readText_save (Prod.ext hsaved rfl)

/-- **The save step, whichever dict it asks for**, ends in some way and leaves some store, and both are as `Saved`
says. -/
theorem exists_ends_saving (table : TableRef) (r : DictRef) (s : Store) {path : String}
    (hpath : c.saveFile? = some path) :
    ∃ result after, Ends (saving table r c) s (result.mapError .failed) after ∧
      Saved table r c path s result after := by
  cases hsource : source? table r c s with
  | some q => exact ⟨_, _, ends_saving hpath hsource, saved_of_source hsource⟩
  | none =>
    have hfind := hsource
    rw [source?] at hfind
    cases hname : c.sourceDict? with
    | none =>
      rw [hname] at hfind
      exact nomatch hfind
    | some name =>
      rw [hname] at hfind
      exact ⟨_, _, ends_saving_of_missing hpath hname hfind, saved_of_missing hname hfind⟩

/-- **The keeper of dicts does what the chain's dict asked for at first**, in a run that is not cancelled.  A file that
cannot be loaded leaves everything as it was.  Otherwise the record is taken of the dict as it was loaded, and then the
dict to save is written as it is by then; where that fails, what was loaded and recorded stays. -/
theorem call_keeps_commands (members : List Nat) {run : Run} {i : Nat}
    (hplugin : (run.roster.handle i).plugin = plugin table) (hcancel : run.isCancelled = false)
    (hdict : run.store.find? ctx.table ctx.dictName = some r) (hr : r < run.store.dicts.length) :
    let s := run.store
    let c := commands (s.dict r)
    let result := (run.call ctx members .run i).1.result
    let after := (run.call ctx members .run i).2.store
    (∀ fault, loaded ctx.types c s.files (s.dict r) = .error fault → result = .error (.dict fault) ∧ after = s) ∧
      ∀ d, loaded ctx.types c s.files (s.dict r) = .ok d → ∃ d', Recorded ctx.now c d d' ∧
        (c.saveFile? = none → result = .ok () ∧ after = s.setDict r d') ∧
        ∀ path, c.saveFile? = some path → Saved table r c path (s.setDict r d') result after := by
  intro s c result after
  have hcall : ∀ {ending : Except Halt Unit} {s' : Store}, Ends (DataSavior.run table ctx) s ending s' →
      result = ending.mapError Halt.error ∧ after = s' := by
    intro ending s' h
    have hcode : (run.roster.handle i).plugin.code .run ctx = DataSavior.run table ctx := by rw [hplugin]; rfl
    obtain ⟨hresult, hafter, -⟩ := Run.call_of_ends members hcancel (hcode ▸ h)
    exact ⟨hresult, hafter⟩
  have hstart : Ends ctx.dict s (.ok r) s := by
    have h := ends_dict (s := s) ctx
    rwa [hdict] at h
  rw [run_eq] at hcall
  refine ⟨fun fault hfault => ?_, fun d hd => ⟨recorded ctx.now c d, recorded_recorded .., ?_⟩⟩
  · exact hcall (hstart.bind ((ends_readDict r).bind (ends_loading_error hfault).bind_error))
  · have hrecording : Ends (recording ctx r c) (s.setDict r d) (.ok ()) (s.setDict r (recorded ctx.now c d)) := by
      have h : Ends (recording ctx r c) (s.setDict r d) (.ok ()) _ := ends_recording (by simpa [Store.setDict] using hr)
      rwa [Store.dict_setDict hr, Store.setDict_setDict] at h
    have hsteps : ∀ {ending : Except Halt Unit} {s' : Store},
        Ends (saving table r c) (s.setDict r (recorded ctx.now c d)) ending s' →
          result = ending.mapError Halt.error ∧ after = s' :=
      fun h => hcall (hstart.bind ((ends_readDict r).bind ((ends_loading hr hd).bind
        (ends_checkpoint.bind (hrecording.bind (ends_checkpoint.bind h))))))
    refine ⟨fun hpath => ?_, fun path hpath => ?_⟩
    · exact hsteps (by rw [saving, hpath]; exact ends_pure ())
    · obtain ⟨saved, s', hends, hsaved⟩ := exists_ends_saving table r (s.setDict r (recorded ctx.now c d)) hpath
      obtain ⟨hresult, hafter⟩ := hsteps hends
      rw [hresult, hafter, mapError_failed]
      exact hsaved

/-- A dict that asks for a record under one of its own command keys, and to save a dict that is not there. -/
def crossed : Dict where
  entries := [("gain", .int 3), ("DataSavior::recordName", .string "DataSavior::saveFile"),
    ("DataSavior::recordKeys", .stringArray ["gain", "lost", "DataSavior::saveFile", "gain"]),
    ("DataSavior::saveFile", .string "out/lab.xml"), ("DataSavior::sourceDict", .string "lost")]

/-- A run on a dict. -/
def benchOn (d : Dict) (files : Files) : Run where
  roster := { entries := [{ handle := .ofPlugin (plugin 0), origin := .builtin }] }
  store := { dicts := [d], tables := [{ names := [("lab", 0)], scope := .builtin }], files }

/-- A run on the dict that asks for a record under a command key. -/
def bench : Run := benchOn crossed {}

@[inherit_doc bench]
def benchContext : RunContext where
  chain := "bench"
  dictName := "lab"
  table := 0
  members := []
  registry? := none
  types := []
  now := .epoch

/-- A dict that asks to load a file, to take a record, and to save itself. -/
def handover (path : String) : Dict where
  entries := [("gain", .int 3), ("DataSavior::loadFile", .string path), ("DataSavior::recordName", .string "now"),
    ("DataSavior::recordKeys", .stringArray ["gain"]), ("DataSavior::saveFile", .string "kept")]

/-- A file with another gain, which asks for records under another name and to save elsewhere. -/
def orders : Files where
  nodes := [(["orders"], .file (.text ("<dict><item key='gain' type='int'>4</item>" ++
    "<item key='DataSavior::recordName' type='string'>then</item>" ++
    "<item key='DataSavior::saveFile' type='string'>elsewhere</item></dict>")))]

/-- The dict with that file loaded. -/
def ordered : Dict where
  entries := [("gain", .int 4), ("DataSavior::loadFile", .string "orders"), ("DataSavior::recordName", .string "then"),
    ("DataSavior::recordKeys", .stringArray ["gain"]), ("DataSavior::saveFile", .string "elsewhere")]

/-- The file is loaded over the dict, and its commands stand there now. -/
theorem load_orders : (handover "orders").load [] orders "orders" = .ok ordered := by
  have hfile : (orders.readText "orders").toOption.map Xml.parse = some (.ok ⟨"dict", [],
      .element "item" [("key", "gain"), ("type", "int")] (.text "4" .nil)
        (.element "item" [("key", "DataSavior::recordName"), ("type", "string")] (.text "then" .nil)
          (.element "item" [("key", "DataSavior::saveFile"), ("type", "string")] (.text "elsewhere" .nil) .nil))⟩) := by
    decide +kernel
  obtain ⟨text, htext, hparse⟩ := Option.map_eq_some_iff.1 hfile
  have hint : ItemTypes.createIn? [] .builtin "int" = some (.int 0) := rfl
  have hstring : ItemTypes.createIn? [] .builtin "string" = some (.string "") := rfl
  have hgain : Scalar.int.parse "int" "4" = .ok 4 := by decide +kernel
  have htexts (text : String) : Scalar.string.parse "string" text = .ok text := rfl
  rw [Dict.load, toOption_eq_some_iff.1 htext]
  simp [Dict.mergeXml, hparse, Dict.merge, handover, ordered, Item.readEntries, Item.readEntry, Item.read,
    Xml.Element.attribute?, Xml.Element.text, Xml.Content.texts, Assoc.find?, Assoc.set, hint, hstring, hgain, htexts]

/-- A run that loads that file. -/
def handed : Run := benchOn (handover "orders") orders

/-- A run whose file is not there. -/
def stranded : Run := benchOn (handover "lost") orders

/-- A record takes the place of the path, and the path is still what is saved to; the record stays though the run
fails.  A file that asks for another record and another path is loaded, and the record and the path are those that were
asked for before, though the gain in the record is that of the file.  A file that is not there changes nothing. -/
theorem bench_keeps_commands :
    ((bench.roster.handle 0).plugin = plugin 0 ∧ bench.isCancelled = false ∧
      bench.store.find? benchContext.table benchContext.dictName = some 0 ∧ 0 < bench.store.dicts.length ∧
      (bench.call benchContext [0] .run 0).1.result = .error (.config "no dict 'lost'") ∧
      ∃ d', Takes .epoch "DataSavior::saveFile" ["gain", "lost", "DataSavior::saveFile", "gain"] crossed d' ∧
        (bench.call benchContext [0] .run 0).2.store = bench.store.setDict 0 d') ∧
    (let after := (handed.call benchContext [0] .run 0).2.store
     (handed.call benchContext [0] .run 0).1.result = .ok () ∧
      ∃ d' xml, Takes .epoch "now" ["gain"] ordered d' ∧ d'.toXml = .ok xml ∧ after.dicts = [d'] ∧
        after.files.readText "kept" = .ok xml ∧ after.files.readText "elsewhere" = .error .notFound) ∧
    (stranded.call benchContext [0] .run 0).1.result = .error (.dict (.file .notFound)) ∧
      (stranded.call benchContext [0] .run 0).2.store = stranded.store := by
  refine ⟨?_, ?_, ?_⟩
  · have hplugin : (bench.roster.handle 0).plugin = plugin 0 := rfl
    have hdict : bench.store.find? benchContext.table benchContext.dictName = some 0 := by decide
    have hlength : 0 < bench.store.dicts.length := by decide
    obtain ⟨-, hloaded⟩ := call_keeps_commands [0] hplugin rfl hdict hlength
    obtain ⟨d', hrecorded, -, hsave⟩ := hloaded crossed rfl
    obtain ⟨hresult, hstore⟩ := (hsave "out/lab.xml" rfl).missing "lost" rfl rfl
    exact ⟨hplugin, rfl, hdict, hlength, hresult, d', hrecorded, hstore⟩
  · intro after
    have hplugin : (handed.roster.handle 0).plugin = plugin 0 := rfl
    have hdict : handed.store.find? benchContext.table benchContext.dictName = some 0 := by decide
    have hresult : (handed.call benchContext [0] .run 0).1.result = .ok () := by decide +kernel
    have helsewhere : after.files.readText "elsewhere" = .error .notFound := by decide +kernel
    obtain ⟨-, hloaded⟩ := call_keeps_commands [0] hplugin rfl hdict (by decide)
    obtain ⟨d', hrecorded, -, hsave⟩ := hloaded ordered load_orders
    have hsaved := hsave "kept" rfl
    -- A dict that could not be written would have ended the run.
    have hwritten : ¬ Item.AnyRefuses d'.entries := fun hrefuses => by
      obtain ⟨⟨fault, hfault⟩, -⟩ := hsaved.refused 0 rfl hrefuses
      exact nomatch hresult.symm.trans hfault
    obtain ⟨xml, hxml, hafter, -, hread⟩ := hsaved.written 0 rfl hwritten
    exact ⟨hresult, d', xml, hrecorded, hxml, congrArg Store.dicts hafter, hread hresult, helsewhere⟩
  · have hplugin : (stranded.roster.handle 0).plugin = plugin 0 := rfl
    have hdict : stranded.store.find? benchContext.table benchContext.dictName = some 0 := by decide
    obtain ⟨hfailed, -⟩ := call_keeps_commands [0] hplugin rfl hdict (by decide)
    exact hfailed (.file .notFound) rfl

end DataSavior
end Calibration
