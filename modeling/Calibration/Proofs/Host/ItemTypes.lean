/-
# What a type tag comes to

A host makes blank items for type tags: by the built-in types, and by factories that plugins and modules bring as they
are loaded.  Every load registers its factories behind those that are there, and which they are is written in the load
and in the files (`registers_run`), so that the table is the row of all registrations in order.  A tag therefore comes
to the blank item of its built-in type, or to that of the earliest factory that knows it (`MadeByFirst`), and whatever
is loaded later leaves it at that (`ItemTypes.create?_append`).

Tags are looked up in three places: by the host, by a dict that is bound to its table, and by the dict inside a record,
which is bound by the factory of records.  A dict looks among the built-in types itself before it asks its factory, and
the table looks there once more.  They agree, and a record reads its dict as a dict of its own would be read
(`nested_of_read`).
-/

import Calibration.Proofs.BringUp.Collaborators
import Calibration.Proofs.Host.Modules
import Calibration.Proofs.Item.Reread

namespace Calibration

open Xml (Element)

/-! ### One table -/

namespace ItemTypes

variable {types more : ItemTypes} {tag : String} {blank : Item}

/-- The earliest factory that knows the tag makes the item. -/
def MadeByFirst (types : ItemTypes) (tag : String) (blank : Item) : Prop :=
  ∃ before origin factory after, types = before ++ (origin, factory) :: after ∧ factory tag = some blank ∧
    ∀ p ∈ before, p.2 tag = none

/-- **A built-in tag comes to the built-in item**, whatever factories claim.  They are not even asked. -/
theorem create?_of_builtin? (h : Item.builtin? tag = some blank) : types.create? tag = some blank := by
  rw [create?, h, Option.some_or]

/-- **A tag of no built-in type is left to the earliest factory that knows it.**  Later ones that know it as well are
never asked for it. -/
theorem create?_eq_some_iff (h : Item.builtin? tag = none) :
    types.create? tag = some blank ↔ types.MadeByFirst tag blank := by
  rw [create?, h, Option.none_or, List.findSome?_eq_some_iff]
  constructor
  · rintro ⟨before, ⟨origin, factory⟩, after, htypes, hmade, hbefore⟩
    exact ⟨before, origin, factory, after, htypes, hmade, hbefore⟩
  · rintro ⟨before, origin, factory, after, htypes, hmade, hbefore⟩
    exact ⟨before, (origin, factory), after, htypes, hmade, hbefore⟩

/-- **Factories registered later are asked last.**  So a tag that is known keeps its meaning, and registering a
factory can only give a meaning to tags that had none. -/
theorem create?_append : (types ++ more).create? tag = (types.create? tag).or (more.findSome? fun p => p.2 tag) := by
  rw [create?, create?, List.findSome?_append, Option.or_assoc]

/-- A tag that comes to an item comes to the same one when factories are added. -/
theorem create?_append_of_eq_some (h : types.create? tag = some blank) : (types ++ more).create? tag = some blank := by
  rw [create?_append, h, Option.some_or]

end ItemTypes

/-- The factory that dicts of a scope are bound to. -/
def TypeScope.factory? (types : ItemTypes) : TypeScope → Option Factory
  | .builtin => none
  | .host => some types.create?

/-- **A dict looks among the built-in types itself** and then asks its factory, which looks there as well; so it makes
no difference that both do. -/
theorem Dict.create?_eq_or (d : Dict) (types : ItemTypes) (tag : String) :
    d.create? types tag = (Item.builtin? tag).or ((d.scope.factory? types).bind (· tag)) := by
  obtain ⟨entries, _ | _⟩ := d
  · exact (Option.or_none).symm
  · change types.create? tag = (Item.builtin? tag).or (types.create? tag)
    rw [ItemTypes.create?, ← Option.or_assoc, Option.or_self]

/-! ### Records -/

namespace Item

variable {types : ItemTypes} {blank item : Item} {d : Dict} {e : Element}

/-- The dict inside a record. -/
def nested? : Item → Option Dict
  | record _ _ entries scope => some { entries, scope }
  | _ => none

/-- The `dict` element inside an element that holds a record. -/
def nestedElement? (e : Element) : Option Element := do (← e.body.child? "record").body.child? "dict"

/-- **A record reads its dict as a dict of its own would be read**, and keeps what it is bound to.  Tags come to the
same items inside of it as outside. -/
theorem nested_of_read (hd : blank.nested? = some d) (h : blank.read types e = .ok item) :
    ∃ nested, item.nested? = some nested ∧ nested.scope = d.scope ∧
      match nestedElement? e with
      | some inner => Dict.merge { scope := d.scope } types inner = .ok nested
      | none => nested.entries = [] := by
  cases blank with
  | record name stamp entries scope =>
    obtain rfl := Option.some.inj hd
    rw [read_record] at h
    cases hrecord : e.body.child? "record" with
    | none =>
      rw [hrecord] at h
      cases h
    | some r =>
      rw [hrecord] at h
      obtain ⟨⟨name', stamp'⟩, -, rfl⟩ := map_eq_ok_iff.1 h
      refine ⟨_, rfl, rfl, ?_⟩
      rw [nestedElement?, hrecord]
      change match r.body.child? "dict" with
        | some inner => _
        | none => _
      cases hdict : r.body.child? "dict" with
      | none => rfl
      | some inner =>
        have hname := List.find?_some (show r.body.elements.find? (·.name = "dict") = some inner from hdict)
        exact if_pos (of_decide_eq_true hname)
  | _ => cases hd

end Item

/-! ### Registrations -/

namespace Host

variable {α : Type} {h : Host}

/-- A step registers some factories behind those that are there; which they are is told by the step and the store, and
the store stays as it is. -/
structure Registers (step : Host → α → Host) (gain : Host → α → ItemTypes) : Prop where
  types : ∀ h a, (step h a).types = h.types ++ gain h a
  store : ∀ h a, (step h a).store = h.store
  gain : ∀ {h h' : Host}, h'.store = h.store → gain h' = gain h

/-- **A row of steps registers one after the other.**  What one of them gains is told by the step alone, whatever the
ones before have registered. -/
theorem Registers.foldl {step : Host → α → Host} {gain : Host → α → ItemTypes} (hstep : Registers step gain) :
    Registers (fun h (as : List α) => as.foldl step h) fun h as => as.flatMap (gain h) where
  types h as := by
    induction as generalizing h with
    | nil => exact (List.append_nil _).symm
    | cons a as ih =>
      -- The first step leaves the store as it is, so that the others register what they would without it.
      rw [List.foldl_cons, ih, hstep.types, hstep.gain (hstep.store h a), List.flatMap_cons, List.append_assoc]
  store h as := by
    induction as generalizing h with
    | nil => rfl
    | cons a as ih => rw [List.foldl_cons, ih, hstep.store]
  gain hs := funext fun as => by rw [hstep.gain hs]

/-- The factories that the module at a path registers, if it can be loaded. -/
def moduleFactories (loader : Loader) (h : Host) (path : String) : ItemTypes :=
  match h.tableAt? loader path with
  | some table => (Descriptor.factories table).map fun items => (path, items.factory)
  | none => []

/-- The factories that the modules directly inside a directory register. -/
def directoryFactories (loader : Loader) (h : Host) (directory : String) : ItemTypes :=
  if h.store.files.hasDirectory directory then
    (moduleFiles h.store.files directory).flatMap (h.moduleFactories loader)
  else []

/-- The factories that an operation registers. -/
def Operation.registers (h : Host) : Operation → ItemTypes
  | loadStatic plugin items? => items?.toList.map (plugin.name, ·)
  | loadModule loader path => h.moduleFactories loader path
  | loadDirectory loader directory => h.directoryFactories loader directory
  | loadDirectories loader directories => directories.flatMap (h.directoryFactories loader)
  | checkDeps | postCheckDeps | bringUp => []

/-- A module that can be loaded leaves what its table leaves, and counts. -/
theorem loadModule_of_tableAt? {loader : Loader} {path : String} {table : List Descriptor}
    (ht : h.tableAt? loader path = some table) :
    (h.loadModule loader path).2 = { (h.loadTable table path).2 with modules := h.modules + 1 } := by
  obtain ⟨library, hopen, hlibrary⟩ := Option.bind_eq_some_iff.1 ht
  split at hlibrary
  · next hversion =>
    obtain ⟨htable, hsome⟩ := Option.filter_eq_some_iff.1 hlibrary
    rw [h.loadModule_of_table loader path hopen hversion htable, if_pos hsome]
  · cases hlibrary

/-- Loading a module registers the factories of its table, if it can be loaded. -/
theorem registers_loadModule (loader : Loader) :
    Registers (fun h path => (h.loadModule loader path).2) (moduleFactories loader) where
  types h path := by
    rw [moduleFactories]
    obtain ⟨e, hload, -, htable⟩ | ⟨table, h', hload, htable, -⟩ := h.loadModule_spec loader path
    · rw [hload, htable, List.append_nil]
    · rw [loadModule_of_tableAt? htable, htable]
      exact h.types_loadTable path (any_of_tableAt?_eq_some htable)
  store h path := h.store_loadModule loader path
  gain hs := by
    funext path
    rw [moduleFactories, moduleFactories, tableAt?, tableAt?, openModule?, openModule?, hs]

/-- What a row of modules leaves is what they leave one after the other, refused or not. -/
theorem loadModules_snd (loader : Loader) (paths : List String) :
    (h.loadModules loader paths).2 = paths.foldl (fun h path => (h.loadModule loader path).2) h := by
  refine (List.foldl_hom Prod.snd fun ⟨n, h⟩ path => ?_).symm
  dsimp only
  rcases h.loadModule loader path with ⟨_ | _, _⟩ <;> rfl

/-- So it is with a row of directories. -/
theorem loadDirectories_snd (loader : Loader) (directories : List String) :
    (h.loadDirectories loader directories).2 =
      directories.foldl (fun h directory => (h.loadDirectory loader directory).2) h := by
  refine (List.foldl_hom Prod.snd fun ⟨n, h⟩ directory => ?_).symm
  dsimp only
  rcases h.loadDirectory loader directory with ⟨_ | _, _⟩ <;> rfl

/-- Loading a directory registers what its modules register, in the order of their paths. -/
theorem registers_loadDirectory (loader : Loader) :
    Registers (fun h directory => (h.loadDirectory loader directory).2) (directoryFactories loader) where
  types h directory := by
    rw [loadDirectory, directoryFactories]
    split_ifs
    · exact (congrArg Host.types (loadModules_snd loader _)).trans ((registers_loadModule loader).foldl.types h _)
    · exact (List.append_nil _).symm
  store h directory := by
    rw [loadDirectory]
    split_ifs
    · exact (congrArg Host.store (loadModules_snd loader _)).trans ((registers_loadModule loader).foldl.store h _)
    · rfl
  gain hs := by
    funext directory
    rw [directoryFactories, directoryFactories, hs, (registers_loadModule loader).gain hs]

/-- **Every operation registers its factories behind those that are there.**  No operation takes one away or puts one
in front. -/
theorem registers_run : Registers Operation.run Operation.registers where
  types h op := by
    cases op with
    | loadStatic plugin items? =>
      cases items? with
      | none => exact (List.append_nil _).symm
      | some factory => rfl
    | loadModule loader path => exact (registers_loadModule loader).types h path
    | loadDirectory loader directory => exact (registers_loadDirectory loader).types h directory
    | loadDirectories loader directories =>
      rw [Operation.run, loadDirectories_snd]
      exact (registers_loadDirectory loader).foldl.types h directories
    | checkDeps | postCheckDeps => exact (List.append_nil _).symm
    | bringUp =>
      rw [Operation.run, bringUp]
      exact (List.append_nil _).symm
  store h op := by
    cases op with
    | loadStatic plugin items? => rfl
    | loadModule loader path => exact (registers_loadModule loader).store h path
    | loadDirectory loader directory => exact (registers_loadDirectory loader).store h directory
    | loadDirectories loader directories =>
      rw [Operation.run, loadDirectories_snd]
      exact (registers_loadDirectory loader).foldl.store h directories
    | checkDeps | postCheckDeps => rfl
    | bringUp => rw [Operation.run, bringUp]
  gain hs := by
    funext op
    cases op with
    | loadModule loader path => exact congrFun ((registers_loadModule loader).gain hs) path
    | loadDirectory loader directory => exact congrFun ((registers_loadDirectory loader).gain hs) directory
    | loadDirectories loader directories =>
      exact congrFun ((registers_loadDirectory loader).foldl.gain hs) directories
    | _ => rfl

/-- A new host has the factory of records, if it has the built-in plugins. -/
theorem types_opened (builtins : Bool) (files : Files) :
    (opened builtins files).types = if builtins then [("DataSavior", Factory.records .host)] else [] := by
  cases builtins <;> rfl

/-- **A tag comes to the same item everywhere and for good**, after any row of operations.  The table is the row of all
registrations; built-in types come first, whatever factories claim, and then the earliest factory that knows the tag;
what is loaded later changes nothing of it.  A dict that is bound to the table makes the same items as the table, though
it looks among the built-in types itself, and so does the dict inside of a record that was read, which is the dict that
would be read from the same element outside of any record. -/
theorem tags_resolve_alike (builtins : Bool) (files : Files) (ops : List Operation) :
    let h := ops.foldl Operation.run (opened builtins files)
    h.types = (if builtins then [("DataSavior", Factory.records .host)] else []) ++
        ops.flatMap (Operation.registers (opened builtins files)) ∧
      (∀ tag blank, Item.builtin? tag = some blank → h.types.create? tag = some blank) ∧
      (∀ tag blank, Item.builtin? tag = none →
        (h.types.create? tag = some blank ↔ h.types.MadeByFirst tag blank)) ∧
      (∀ later tag blank, h.types.create? tag = some blank →
        (List.foldl Operation.run h later).types.create? tag = some blank) ∧
      (∀ (d : Dict) tag, d.scope = .host → d.create? h.types tag = h.types.create? tag ∧
        d.create? h.types tag = (Item.builtin? tag).or (h.types.create? tag)) ∧
      (builtins = true → h.types.create? "CalibRecord" = some (Item.blankRecord .host)) ∧
      ∀ (blank item : Item) d e, blank.nested? = some d → d.scope = .host → blank.read h.types e = .ok item →
        ∃ nested, item.nested? = some nested ∧ (∀ tag, nested.create? h.types tag = h.types.create? tag) ∧
          match Item.nestedElement? e with
          | some inner => Dict.merge { scope := .host } h.types inner = .ok nested
          | none => nested.entries = [] := by
  intro h
  have htypes : h.types = (if builtins then [("DataSavior", Factory.records .host)] else []) ++
      ops.flatMap (Operation.registers (opened builtins files)) := by
    rw [← types_opened builtins files]
    exact registers_run.foldl.types (opened builtins files) ops
  have hbound (d : Dict) (tag : String) (hd : d.scope = .host) : d.create? h.types tag = h.types.create? tag := by
    rw [Dict.create?, hd]
    rfl
  refine ⟨htypes, fun _ _ => ItemTypes.create?_of_builtin?, fun _ _ => ItemTypes.create?_eq_some_iff,
    fun later tag blank hmade => ?_, fun d tag hd => ⟨hbound d tag hd, ?_⟩, fun hb => ?_,
    fun blank item d e hd hs he => ?_⟩
  · rw [registers_run.foldl.types h later]
    exact ItemTypes.create?_append_of_eq_some hmade
  · rw [Dict.create?_eq_or, hd]
    rfl
  · rw [htypes, if_pos hb]
    exact ItemTypes.create?_append_of_eq_some rfl
  · obtain ⟨nested, hnested, hscope, hread⟩ := Item.nested_of_read hd he
    rw [hs] at hscope hread
    exact ⟨nested, hnested, fun tag => hbound nested tag hscope, hread⟩

/-- A factory that claims a built-in type, records and readings. -/
def usurper : Factory :=
  .copies [{ tag := "int", value := "mine" }, { tag := "CalibRecord", value := "mine" },
    { tag := "Xyz", value := "mine" }]

/-- A plugin with that factory is loaded before the module that brings readings. -/
def takeover : List Operation :=
  [.loadStatic { name := "Usurper" } (some usurper), .loadModule Sample.open? "mods/b.so"]

/-- A `dict` element with a reading of the usurper. -/
def whites : Element :=
  ⟨"dict", [], .element "item" [("key", "white"), ("type", "Xyz")] (.text "bright" .nil) .nil⟩

/-- An element with a record of it. -/
def spot : Element :=
  ⟨"item", [], .element "record" [("name", "spot"), ("timestamp", "2016-12-31 18:00:00Z")]
    (.element "dict" whites.attributes whites.body .nil) .nil⟩

/-- The factory gets readings and neither integers nor records, and keeps them when another is loaded; a record holds
what a dict of its own would hold. -/
theorem takeover_resolves :
    let h := takeover.foldl Operation.run (opened true shelf)
    let mine : Item := .custom { tag := "Xyz", value := "mine" }
    let bright : Item := .custom { tag := "Xyz", value := "bright" }
    h.types.create? "int" = some (.int 0) ∧ h.types.create? "CalibRecord" = some (Item.blankRecord .host) ∧
      h.types.create? "Xyz" = some mine ∧
      (List.foldl Operation.run h [.loadStatic { name := "Latecomer" } (some .readings)]).types.create? "Xyz" =
        some mine ∧
      (Item.blankRecord .host).read h.types spot = .ok (.record "spot" ⟨17166, 64800, 0⟩ [("white", bright)] .host) ∧
      Dict.merge { scope := .host } h.types whites = .ok { entries := [("white", bright)], scope := .host } := by
  intro h mine bright
  obtain ⟨-, hbuiltin, hfirst, hstable, -, hrecord, hnested⟩ := tags_resolve_alike true shelf takeover
  have hmine : h.types.create? "Xyz" = some mine := (hfirst "Xyz" mine rfl).2
    ⟨[("DataSavior", .records .host)], "Usurper", usurper, [("mods/b.so", .readings)], rfl, rfl,
      by simp [Factory.records]⟩
  have hstamp : Time.Timestamp.read? "2016-12-31 18:00:00Z" = some ⟨17166, 64800, 0⟩ := by decide +kernel
  have hread : (Item.blankRecord .host).read h.types spot =
      .ok (.record "spot" ⟨17166, 64800, 0⟩ [("white", bright)] .host) := by
    simp [spot, whites, Item.blankRecord, Item.read_record, Item.readRecordHead, Item.readEntries, Item.readEntry,
      Item.read, Custom.read, Xml.Content.child?, Xml.Content.elements, Xml.Content.texts,
      Element.attribute?, Element.text, Assoc.find?, Assoc.set, Except.map, ItemTypes.createIn?, hmine, hstamp, mine,
      bright]
  obtain ⟨nested, hsome, -, hmerged⟩ := hnested _ _ _ spot rfl rfl hread
  obtain rfl := Option.some.inj hsome
  exact ⟨hbuiltin "int" _ rfl, hrecord rfl, hmine, hstable _ "Xyz" mine hmine, hread, hmerged⟩

end Host
end Calibration
