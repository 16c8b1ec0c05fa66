/-
# What a module brings

A module that is loaded adds its plugins behind those that are there, and its item factories behind theirs; a module
that is refused adds nothing.  Whether a module is refused is written in its file alone, so the modules of a directory
can be loaded in order, each as if those that are refused were not there.
-/

import Calibration.Proofs.Files.Order
import Calibration.Proofs.Roster.Outline
import Calibration.Sample.Modules
import Mathlib.Data.List.Induction

namespace Calibration

/-! ### A plugin more -/

/-- What an entry keeps from the day it was loaded. -/
def Entry.source (e : Entry) : Plugin × Origin × Option (Nat × Nat) := (e.handle.plugin, e.origin, e.version?)

/-- A call leaves the handle with the same plugin. -/
theorem Handle.plugin_leave {α : Type} (h : Handle) (result : Except Halt α) :
    (h.leave result).2.plugin = h.plugin := by
  cases result <;> rfl

namespace Roster

variable {α : Type}

/-- The roster has one entry more than `entries`, and that comes from `source`. -/
def Appends (entries : List Entry) (source : Plugin × Origin × Option (Nat × Nat)) (r : Roster) : Prop :=
  ∃ e, r.entries = entries ++ [e] ∧ e.source = source

namespace Appends

variable {entries : List Entry} {source : Plugin × Origin × Option (Nat × Nat)} {r : Roster}

/-- The new entry may be changed as long as its plugin stays. -/
theorem modifyHandle (h : r.Appends entries source) {f : Handle → Handle}
    (hf : (f (r.handle entries.length)).plugin = (r.handle entries.length).plugin) :
    (r.modifyHandle entries.length f).Appends entries source := by
  obtain ⟨e, hr, he⟩ := h
  have hlast : r.handle entries.length = e.handle := by simp [handle, entry, hr]
  refine ⟨{ e with handle := f e.handle }, ?_, ?_⟩
  · simp [Roster.modifyHandle, Roster.modify, hr, List.modify_eq_set_getElem?]
  · rw [hlast] at hf
    rw [← he, Entry.source, Entry.source, hf]

/-- The code of the new plugin may be called. -/
theorem callLocal (h : r.Appends entries source) (step : Step) (code : LocalCode α) :
    (r.callLocal entries.length step code).2.Appends entries source := by
  have keeps : ∀ (q : Signature.none.noting.Request) (s : Roster), s.Appends entries source →
      (serveLocal q s).2.Appends entries source := by
    rintro (line | q) s hs
    · exact hs
    · exact nomatch q
  have henter : (r.enter entries.length step).Appends entries source := h.modifyHandle rfl
  have hrun := Task.run_preserves keeps (code.run.run (r.handle entries.length).memory) henter
  rw [Roster.callLocal]
  exact hrun.modifyHandle (f := fun _ => _) (Handle.plugin_leave _ _)

/-- The new plugin may move in its lifecycle. -/
theorem move (h : r.Appends entries source) (next : Lifecycle) :
    (r.move entries.length next).Appends entries source := by
  rw [Roster.move]
  split
  · exact h.modifyHandle (f := (·.moved next)) (Handle.plugin_moved _ _)
  · exact h

end Appends

/-- **A plugin more leaves the entries before it as they are.**  It comes last, with its origin and version, and is
asked to tend itself. -/
theorem appends_add (r : Roster) (plugin : Plugin) (origin : Origin) (version? : Option (Nat × Nat)) :
    (r.add plugin origin version?).Appends r.entries (plugin, origin, version?) := by
  let r₀ : Roster := { r with entries := r.entries ++ [{ handle := .ofPlugin plugin, origin, version? }] }
  have h₀ : r₀.Appends r.entries (plugin, origin, version?) := ⟨_, rfl, rfl⟩
  have hcall := h₀.callLocal (.bringUp .postLoad) plugin.postLoad
  rw [add]
  split <;> next heq => rw [show r₀.callLocal r.entries.length .. = _ from heq] at hcall; exact hcall.move _

end Roster

/-! ### The rows of a table -/

namespace Descriptor

/-- Where the plugins of a table come from, row by row. -/
def sources (path : String) (table : List Descriptor) : List (Plugin × Origin × Option (Nat × Nat)) :=
  table.filterMap fun row => row.plugin?.map fun plugin => (plugin, .module path, some (row.major, row.minor))

/-- The factories that a table offers, row by row; one of no use is none. -/
def offers (table : List Descriptor) : List ItemExport :=
  table.filterMap fun row => row.items?.filter (·.canDestroy)

/-- There are as many new plugins as rows that have one. -/
theorem length_sources (path : String) (table : List Descriptor) :
    (sources path table).length = table.countP (·.plugin?.isSome) := by
  simp [sources, List.length_filterMap_eq_countP]

/-- Some plugin comes from a table exactly if some row has one. -/
theorem sources_ne_nil_iff (path : String) (table : List Descriptor) :
    sources path table ≠ [] ↔ table.any (·.plugin?.isSome) := by
  rw [← List.length_pos_iff, length_sources, List.countP_pos_iff, List.any_eq_true]

/-- The factories of a table are gathered from its offers: one is taken over if none of its identity was taken over
before. -/
theorem factories_eq_foldl_offers (table : List Descriptor) :
    factories table = (offers table).foldl
      (fun found items => if found.any (·.identity = items.identity) then found else found ++ [items]) [] := by
  rw [factories, offers, List.foldl_filterMap]
  refine congrArg (fun step => table.foldl step []) ?_
  funext found row
  cases row.items? with
  | none => rfl
  | some items =>
    cases huse : items.canDestroy <;> cases hany : found.any (·.identity = items.identity) <;>
      simp [Option.filter, huse, hany]

/-- **The factories of a table are the first offers**, each identity once, in the order of the rows.  A factory that
two rows offer is registered for the first of them. -/
theorem factories_spec (table : List Descriptor) :
    (factories table).map (·.identity) = ((offers table).map (·.identity)).eraseDups ∧
      ∀ items ∈ factories table, (offers table).find? (·.identity = items.identity) = some items := by
  rw [factories_eq_foldl_offers]
  induction offers table using List.reverseRecOn with
  | nil => exact ⟨rfl, nofun⟩
  | append_singleton offers items ih =>
    rw [List.foldl_append, List.foldl_cons, List.foldl_nil]
    generalize offers.foldl _ [] = found at ih
    obtain ⟨hids, hfirst⟩ := ih
    have hknown : found.any (·.identity = items.identity) ↔ items.identity ∈ offers.map (·.identity) := by
      rw [← List.mem_eraseDups, ← hids]
      simp
    have hold : ∀ e ∈ found, (offers ++ [items]).find? (·.identity = e.identity) = some e := fun e he => by
      rw [List.find?_append, hfirst e he, Option.some_or]
    have hremove : ∀ (x : String) (known : List String), [x].removeAll known = if x ∈ known then [] else [x] := by
      intro x known
      by_cases hx : x ∈ known <;> simp [List.removeAll, hx]
    by_cases hany : found.any (·.identity = items.identity)
    · have hmem := hknown.1 hany
      rw [if_pos hany]
      refine ⟨?_, hold⟩
      rw [List.map_append, List.eraseDups_append, List.map_singleton, hremove, if_pos hmem, hids]
      exact (List.append_nil _).symm
    · have hmem : items.identity ∉ offers.map (·.identity) := fun h => hany (hknown.2 h)
      rw [if_neg hany]
      refine ⟨?_, fun e he => ?_⟩
      · rw [List.map_append, List.map_append, List.eraseDups_append, List.map_singleton, hremove, if_neg hmem, hids]
        rfl
      · rcases List.mem_append.1 he with he | he
        · exact hold e he
        · obtain rfl := List.mem_singleton.1 he
          have hnone : offers.find? (·.identity = e.identity) = none := by simpa using hmem
          simp [List.find?_append, hnone]

end Descriptor

namespace Host

variable (h : Host) (loader : Loader) (path : String)

/-- **The plugins of a table come behind those that are there**, in the order of its rows.  What a table does to the
roster is said by this lemma and what it does to the types by the next two. -/
theorem entries_loadTable (table : List Descriptor) :
    ∃ new, (h.loadTable table path).2.roster.entries = h.roster.entries ++ new ∧
      new.map Entry.source = Descriptor.sources path table := by
  change ∃ new, (table.foldl (loadRow path) h.roster).entries = h.roster.entries ++ new ∧ _
  generalize h.roster = r
  induction table generalizing r with
  | nil => exact ⟨[], by simp, rfl⟩
  | cons row rest ih =>
    obtain ⟨new, hentries, hnew⟩ := ih (loadRow path r row)
    cases hrow : row.plugin? with
    | none => exact ⟨new, by simpa [loadRow, hrow] using hentries, by simpa [Descriptor.sources, hrow] using hnew⟩
    | some plugin =>
      obtain ⟨e, he, hsource⟩ := r.appends_add plugin (.module path) (some (row.major, row.minor))
      refine ⟨e :: new, ?_, ?_⟩
      · simp only [loadRow, hrow, he] at hentries
        simpa [loadRow, hrow] using hentries
      · simpa [Descriptor.sources, hrow, hsource] using hnew

/-- **The factories of a table with a plugin come behind those that are there**, under the path of the module.  Only a
table that has loaded a plugin gets as far as registering any. -/
theorem types_loadTable {table : List Descriptor} (hsome : table.any (·.plugin?.isSome)) :
    (h.loadTable table path).2.types =
      h.types ++ (Descriptor.factories table).map fun items => (path, items.factory) := by
  have hcount : table.countP (·.plugin?.isSome) ≠ 0 := by
    rw [← Descriptor.length_sources path, ← Nat.pos_iff_ne_zero, List.length_pos_iff]
    exact (Descriptor.sources_ne_nil_iff path table).2 hsome
  have hregister : ∀ (items : List ItemExport) (types : ItemTypes),
      items.foldl (fun types items => types.register path items.factory) types =
        types ++ items.map fun items => (path, items.factory) := by
    intro items
    induction items with
    | nil => simp
    | cons e rest ih =>
      intro types
      rw [List.foldl_cons, ih, ItemTypes.register]
      simp
  rw [loadTable]
  simp only [if_neg hcount, hregister]

/-- **A table without a plugin leaves the host as it was**: no row has added to the roster, and the factories that its
rows offer are registered only once there is a plugin.  This is all that makes a refused module leave nothing behind, as
`loadModule` takes nothing back. -/
theorem loadTable_of_no_plugin {table : List Descriptor} (hnone : ∀ row ∈ table, row.plugin? = none) :
    h.loadTable table path = (0, h) := by
  have hcount : table.countP (·.plugin?.isSome) = 0 :=
    List.countP_eq_zero.2 fun row hrow => by rw [hnone row hrow]; exact Bool.false_ne_true
  have hroster : table.foldl (loadRow path) h.roster = h.roster := by
    induction table with
    | nil => rfl
    | cons row rest ih =>
      obtain ⟨hrow, hrest⟩ := List.forall_mem_cons.1 hnone
      rw [List.countP_cons_of_neg (by rw [hrow]; exact Bool.false_ne_true)] at hcount
      rw [List.foldl_cons, loadRow, hrow]
      exact ih hrest hcount
  rw [loadTable, hcount, hroster]
  rfl

/-! ### One module -/

/-- The table of the module at a path, if it can be loaded: it is made for this interface, and some row has a plugin. -/
def tableAt? : Option (List Descriptor) :=
  (h.openModule? loader path).bind fun library =>
    if library.version? = some apiVersion then library.table?.filter (·.any (·.plugin?.isSome)) else none

def isLoadable : Bool := (h.tableAt? loader path).isSome

/-- A table that can be loaded has a plugin. -/
theorem any_of_tableAt?_eq_some {h : Host} {loader : Loader} {path : String} {table : List Descriptor}
    (ht : h.tableAt? loader path = some table) : table.any (·.plugin?.isSome) := by
  obtain ⟨library, -, hlibrary⟩ := Option.bind_eq_some_iff.1 ht
  split at hlibrary
  · exact (Option.filter_eq_some_iff.1 hlibrary).2
  · cases hlibrary

/-- Why the module at a path is refused. -/
inductive Refuses : RegistryError → Prop
  | unopened : h.openModule? loader path = none → Refuses .libraryLoad
  | unversioned {library} : h.openModule? loader path = some library → library.version? = none → Refuses .libraryLoad
  | mismatched {library version} : h.openModule? loader path = some library → library.version? = some version →
      version ≠ apiVersion → Refuses (.apiVersionMismatch apiVersion version)
  | untabled {library} : h.openModule? loader path = some library → library.version? = some apiVersion →
      library.table? = none → Refuses .libraryLoad
  | unplugged {library table} : h.openModule? loader path = some library → library.version? = some apiVersion →
      library.table? = some table → (∀ row ∈ table, row.plugin? = none) → Refuses (.noPlugins path)

/-- What a module's table gives to a host: a plugin for each row that has one, a factory for each identity that is
offered, which is the first of that identity, and nothing else. -/
structure Gains (table : List Descriptor) (h' : Host) : Prop where
  plugins : ∃ new, h'.roster.entries = h.roster.entries ++ new ∧ new.map Entry.source = Descriptor.sources path table
  types : ∃ new : List ItemExport, h'.types = h.types ++ new.map (fun items => (path, items.factory)) ∧
    new.map (·.identity) = ((Descriptor.offers table).map (·.identity)).eraseDups ∧
    ∀ items ∈ new, (Descriptor.offers table).find? (·.identity = items.identity) = some items
  modules : h'.modules = h.modules + 1
  rest : h' = { h with roster := h'.roster, types := h'.types, modules := h'.modules }

/-- **A module made for this interface is loaded if its table has a plugin.**  If it has none, the module is refused,
and the host that its table leaves is the one that it was. -/
theorem loadModule_of_table {library : Library} {table : List Descriptor}
    (hopen : h.openModule? loader path = some library)
    (hversion : library.version? = some apiVersion) (htable : library.table? = some table) :
    h.loadModule loader path =
      if table.any (·.plugin?.isSome) then
        (.ok (table.countP (·.plugin?.isSome)), { (h.loadTable table path).2 with modules := h.modules + 1 })
      else (.error (.noPlugins path), h) := by
  simp only [loadModule, hopen, hversion, htable, ne_eq, not_true_eq_false, if_false]
  by_cases hsome : table.any (·.plugin?.isSome)
  · have hcount : table.countP (·.plugin?.isSome) ≠ 0 := by
      rwa [← Nat.pos_iff_ne_zero, List.countP_pos_iff, ← List.any_eq_true]
    rw [if_pos hsome]
    split
    · next heq => exact absurd (congrArg Prod.fst heq) hcount
    · next loaded h' _ heq =>
      obtain ⟨rfl, rfl⟩ : table.countP (·.plugin?.isSome) = loaded ∧ (h.loadTable table path).2 = h' :=
        ⟨congrArg Prod.fst heq, congrArg Prod.snd heq⟩
      rfl
  · have hnone : ∀ row ∈ table, row.plugin? = none := by simpa using hsome
    rw [h.loadTable_of_no_plugin path hnone, if_neg hsome]
    rfl

/-- **A module is loaded whole or refused without a trace**: all cases at once, with the reason where it is refused
and what it gives where it is loaded. -/
theorem loadModule_spec :
    (∃ e, h.loadModule loader path = (.error e, h) ∧ h.Refuses loader path e ∧ h.tableAt? loader path = none) ∨
      ∃ table h', h.loadModule loader path = (.ok (table.countP (·.plugin?.isSome)), h') ∧
        h.tableAt? loader path = some table ∧ h.Gains path table h' := by
  cases hopen : h.openModule? loader path with
  | none => exact .inl ⟨_, by simp [loadModule, hopen], .unopened hopen, by simp [tableAt?, hopen]⟩
  | some library =>
    cases hversion : library.version? with
    | none =>
      exact .inl ⟨_, by simp [loadModule, hopen, hversion], .unversioned hopen hversion,
        by simp [tableAt?, hopen, hversion]⟩
    | some version =>
      by_cases hv : version = apiVersion
      · subst hv
        cases htable : library.table? with
        | none =>
          exact .inl ⟨_, by simp [loadModule, hopen, hversion, htable], .untabled hopen hversion htable,
            by simp [tableAt?, hopen, hversion, htable]⟩
        | some table =>
          have hload := h.loadModule_of_table loader path hopen hversion htable
          by_cases hsome : table.any (·.plugin?.isSome)
          · refine .inr ⟨table, _, by rw [hload, if_pos hsome], by simp [tableAt?, hopen, hversion, htable, hsome], ?_⟩
            exact ⟨h.entries_loadTable path table, ⟨_, h.types_loadTable path hsome, Descriptor.factories_spec table⟩,
              rfl, rfl⟩
          · have hnone : ∀ row ∈ table, row.plugin? = none := by simpa using hsome
            refine .inl ⟨_, by rw [hload, if_neg hsome], .unplugged hopen hversion htable hnone, ?_⟩
            simpa [tableAt?, hopen, hversion, htable] using hnone
      · exact .inl ⟨_, by simp [loadModule, hopen, hversion, hv], .mismatched hopen hversion hv,
          by simp [tableAt?, hopen, hversion, hv]⟩

/-! ### The modules of a directory -/

/-- No module changes the store when it is loaded. -/
theorem store_loadModule : (h.loadModule loader path).2.store = h.store := by
  obtain ⟨e, hload, -⟩ | ⟨table, h', hload, -, hgains⟩ := h.loadModule_spec loader path
  · rw [hload]
  · rw [hload, hgains.rest]

/-- **A module can be loaded or not whatever else is loaded**: that is written in its file.  Loading leaves the store
and its files as they are, so the question has the same answer all along a row of modules. -/
theorem isLoadable_of_store_eq {h h' : Host} (hs : h'.store = h.store) :
    h'.isLoadable loader = h.isLoadable loader := by
  funext path
  rw [isLoadable, isLoadable, tableAt?, tableAt?, openModule?, openModule?, hs]

/-- Modules loaded one after the other, each with success. -/
inductive LoadsAll : Host → List String → Host → Prop
  | nil (h : Host) : LoadsAll h [] h
  | cons {h h₁ h₂ : Host} {path : String} {rest : List String} {n : Nat} :
      h.loadModule loader path = (.ok n, h₁) → LoadsAll h₁ rest h₂ → LoadsAll h (path :: rest) h₂

/-- The first module of a row is loaded first; if it is refused, the others are loaded all the same. -/
theorem loadModules_cons (paths : List String) :
    h.loadModules loader (path :: paths) = match h.loadModule loader path with
      | (.ok _, h) => ((h.loadModules loader paths).1 + 1, (h.loadModules loader paths).2)
      | (.error _, h) => h.loadModules loader paths := by
  unfold loadModules
  rw [List.foldl_cons]
  rcases hload : h.loadModule loader path with ⟨_ | n, h'⟩
  · simp only [hload]
  · simp only [hload]
    -- One module more before the row is one more after it.
    refine @List.foldl_hom _ _ _ (fun x : Nat × Host => (x.1 + 1, x.2)) _ _ paths (0, h') fun x path => ?_
    rcases x.2.loadModule loader path with ⟨_ | _, _⟩ <;> rfl

/-- **Of a row of modules those are loaded that can be**, as if the others were not there.  The number that is
reported is theirs. -/
theorem loadModules_spec (paths : List String) :
    (h.loadModules loader paths).1 = (paths.filter (h.isLoadable loader)).length ∧
      LoadsAll loader h (paths.filter (h.isLoadable loader)) (h.loadModules loader paths).2 := by
  induction paths generalizing h with
  | nil => exact ⟨rfl, .nil h⟩
  | cons path rest ih =>
    rw [loadModules_cons]
    obtain ⟨e, hload, -, htable⟩ | ⟨table, h', hload, htable, hgains⟩ := h.loadModule_spec loader path
    · simpa [hload, isLoadable, htable] using ih h
    · have hstore : h'.store = h.store := by rw [hgains.rest]
      obtain ⟨hn, hall⟩ := ih h'
      rw [isLoadable_of_store_eq loader hstore] at hn hall
      simp only [hload, List.filter_cons, show h.isLoadable loader path = true by rw [isLoadable, htable]; rfl, if_true]
      exact ⟨by rw [hn, List.length_cons], .cons hload hall⟩

section Reordering

/-- The host with other files. -/
def withFiles (files : Files) : Host := { h with store := { h.store with files } }

variable {h} {files : Files} (hf : h.store.files.Reordered files)
include hf

/-- Loading a module asks the files for nothing but its own image. -/
theorem loadModule_withFiles :
    (h.withFiles files).loadModule loader path =
      ((h.loadModule loader path).1, (h.loadModule loader path).2.withFiles files) := by
  have hopen : (h.withFiles files).openModule? loader path = h.openModule? loader path := by
    rw [openModule?, openModule?, withFiles, hf.readImage?]
  unfold loadModule
  rw [hopen]
  cases h.openModule? loader path with
  | none => rfl
  | some library =>
    obtain ⟨_ | version, _ | table⟩ := library
    · rfl
    · rfl
    · by_cases hv : version = apiVersion <;> simp [hv]
    · by_cases hv : version = apiVersion
      · have htable : (h.withFiles files).loadTable table path =
          ((h.loadTable table path).1, (h.loadTable table path).2.withFiles files) := rfl
        simp only [hv, htable, ne_eq, not_true_eq_false, if_false]
        rcases h.loadTable table path with ⟨_ | n, h'⟩ <;> rfl
      · simp [hv]

/-- So does loading a row of modules, each for its own. -/
theorem loadModules_withFiles (paths : List String) :
    (h.withFiles files).loadModules loader paths =
      ((h.loadModules loader paths).1, (h.loadModules loader paths).2.withFiles files) := by
  induction paths generalizing h with
  | nil => rfl
  | cons path rest ih =>
    have hf' : (h.loadModule loader path).2.store.files.Reordered files := by rwa [h.store_loadModule loader path]
    rw [loadModules_cons, loadModules_cons, loadModule_withFiles loader path hf]
    rcases hload : h.loadModule loader path with ⟨_ | n, h'⟩ <;> rw [hload] at hf'
    · exact ih hf'
    · simp only [ih hf']

/-- **The order in which a directory gives its entries does not matter.**  The module files are sorted before any of
them is loaded. -/
theorem loadDirectory_withFiles (directory : String) :
    (h.withFiles files).loadDirectory loader directory =
      ((h.loadDirectory loader directory).1, (h.loadDirectory loader directory).2.withFiles files) := by
  have hdir : (h.withFiles files).store.files.hasDirectory directory = h.store.files.hasDirectory directory :=
    hf.hasDirectory directory
  have hpaths : moduleFiles (h.withFiles files).store.files directory = moduleFiles h.store.files directory :=
    moduleFiles_reordered hf directory
  rw [loadDirectory, loadDirectory, hdir, hpaths, loadModules_withFiles loader hf]
  split <;> rfl

end Reordering

/-- **Modules are loaded whole or not at all, in the order of their paths.**  The parts speak of a module that is
refused, of one that is loaded, of the modules of a directory, and of a directory that is not there. -/
theorem modules_load_whole_in_path_order (h : Host) (loader : Loader) :
    (∀ path e h', h.loadModule loader path = (.error e, h') → h' = h ∧ h.Refuses loader path e) ∧
    (∀ path n h', h.loadModule loader path = (.ok n, h') → 1 ≤ n ∧
      ∃ table, h.tableAt? loader path = some table ∧ n = (Descriptor.sources path table).length ∧
        h.Gains path table h') ∧
    (∀ directory, h.store.files.hasDirectory directory →
      (∃ paths : List String, paths.Pairwise (· ≤ ·) ∧
        paths.Perm (((h.store.files.children (Path.ofText directory).names).filter isModuleFile).map
          (Path.join directory ·.1)) ∧
        (h.loadDirectory loader directory).1 = .ok (paths.filter (h.isLoadable loader)).length ∧
        LoadsAll loader h (paths.filter (h.isLoadable loader)) (h.loadDirectory loader directory).2) ∧
      ∀ files, h.store.files.Reordered files → (h.withFiles files).loadDirectory loader directory =
        ((h.loadDirectory loader directory).1, (h.loadDirectory loader directory).2.withFiles files)) ∧
    ∀ directory, h.store.files.hasDirectory directory = false →
      h.loadDirectory loader directory = (.error (.directoryNotFound directory), h) := by
  refine ⟨fun path e h' hload => ?_, fun path n h' hload => ?_, fun directory hdir => ⟨?_, fun files hf => ?_⟩,
    fun directory hdir => ?_⟩
  · obtain ⟨e₀, hspec, hrefuses, -⟩ | ⟨table, h₀, hspec, -⟩ := h.loadModule_spec loader path
    · obtain ⟨rfl, rfl⟩ : e₀ = e ∧ h = h' := by simpa [hspec] using hload
      exact ⟨rfl, hrefuses⟩
    · simp [hspec] at hload
  · obtain ⟨e₀, hspec, -⟩ | ⟨table, h₀, hspec, htable, hgains⟩ := h.loadModule_spec loader path
    · simp [hspec] at hload
    · obtain ⟨rfl, rfl⟩ : table.countP (·.plugin?.isSome) = n ∧ h₀ = h' := by simpa [hspec] using hload
      refine ⟨?_, table, htable, (Descriptor.length_sources path table).symm, hgains⟩
      have hsome : table.any (·.plugin?.isSome) := any_of_tableAt?_eq_some htable
      rw [← Descriptor.length_sources path]
      exact List.length_pos_iff.2 ((Descriptor.sources_ne_nil_iff path table).2 hsome)
  · obtain ⟨hsorted, hperm⟩ := moduleFiles_spec h.store.files directory
    obtain ⟨hn, hall⟩ := h.loadModules_spec loader (moduleFiles h.store.files directory)
    rw [loadDirectory, if_pos hdir]
    exact ⟨_, hsorted, hperm, congrArg Except.ok hn, hall⟩
  · exact loadDirectory_withFiles loader hf directory
  · rw [loadDirectory, hdir]
    rfl

/-- A directory with a module that has no plugin, the demonstration module, and one for another interface. -/
def shelf : Files where
  nodes := [(["mods"], .directory), (["mods", "c.so"], .file (.image "version2")),
    (["mods", "b.so"], .file (.image "demo")), (["mods", "a.so"], .file (.image "hollow"))]

/-- Opens the sample modules, and one that offers a factory in a row without a plugin. -/
def opener : Loader
  | "hollow" => some { table? := some [⟨"Hollow", 1, 0, none, some Sample.readings⟩] }
  | image => Sample.open? image

/-- A host that has that directory and has not loaded anything. -/
def shelfHost : Host := { store := { files := shelf } }

/-- The demonstration module brings its two plugins, the module that offers only a factory leaves no trace, and the
directory can be read from its other end. -/
theorem shelf_loads_whole :
    (∃ h' table, shelfHost.loadModule opener "mods/b.so" = (.ok 2, h') ∧
      shelfHost.Gains "mods/b.so" table h') ∧
    (∃ h', shelfHost.loadModule opener "mods/a.so" = (.error (.noPlugins "mods/a.so"), h') ∧ h' = shelfHost) ∧
    shelf.Reordered ⟨shelf.nodes.reverse⟩ ∧
    ((shelfHost.withFiles ⟨shelf.nodes.reverse⟩).loadDirectory opener "mods").1 =
      (shelfHost.loadDirectory opener "mods").1 := by
  have hf : shelf.Reordered ⟨shelf.nodes.reverse⟩ :=
    Files.reordered_of_perm (by decide) (List.reverse_perm _)
  obtain ⟨hrefused, hloaded, hdirectory, -⟩ := modules_load_whole_in_path_order shelfHost opener
  obtain ⟨-, table, -, -, hgains⟩ := hloaded "mods/b.so" 2 _ rfl
  refine ⟨⟨_, table, rfl, hgains⟩, ⟨_, rfl, (hrefused "mods/a.so" _ _ rfl).1⟩, hf, ?_⟩
  rw [(hdirectory "mods" (by decide +kernel)).2 _ hf]

end Host
end Calibration
