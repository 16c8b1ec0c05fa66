/-
# Loading modules

A module is loaded from its file, row by row of its table. A module that gives no plugin leaves nothing behind. A
directory is loaded in the order of its file names, and a module in it that cannot be loaded is passed over.
-/

import Calibration.Host.Basic
import Calibration.Registry.Module

namespace Calibration
namespace Host

/-- Adds the plugin of a row, if the row has one. -/
def loadRow (path : String) (r : Roster) (row : Descriptor) : Roster :=
  match row.plugin? with
  | some plugin => r.add plugin (.module path) (some (row.major, row.minor))
  | none => r

/-- Loads the rows of a table; gives the number of plugins. The factories are registered once there is a plugin. -/
def loadTable (h : Host) (table : List Descriptor) (path : String) : Nat × Host :=
  let loaded := table.countP (·.plugin?.isSome)
  let roster := table.foldl (loadRow path) h.roster
  let types := if loaded = 0 then h.types
    else (Descriptor.factories table).foldl (fun types items => types.register path items.factory) h.types
  (loaded, { h with roster, types })

/-- The module in the file at a path. A name alone is no path to a module: it means one of the system's. -/
def openModule? (h : Host) (loader : Loader) (path : String) : Option Library :=
  if path.toList.contains '/' then (h.store.files.readImage? path).bind loader else none

/-- Loads the module at a path; gives the number of plugins.  A module whose table gives none is refused, and what its
table has left in the host stays. -/
def loadModule (h : Host) (loader : Loader) (path : String) : Except RegistryError Nat × Host :=
  match h.openModule? loader path with
  | none => (.error .libraryLoad, h)
  | some library =>
    match library.version?, library.table? with
    | none, _ => (.error .libraryLoad, h)
    | some version, table? =>
      if version ≠ apiVersion then (.error (.apiVersionMismatch apiVersion version), h)
      else
        match table? with
        | none => (.error .libraryLoad, h)
        | some table =>
          match h.loadTable table path with
          | (0, h) => (.error (.noPlugins path), h)
          | (loaded, h) => (.ok loaded, { h with modules := h.modules + 1 })

/-- The paths of the module files directly inside a directory, in order. -/
def moduleFiles (files : Files) (directory : String) : List String :=
  let names := (files.children (Path.ofText directory).names).filterMap fun (name, node) => match node with
    | .file _ => if Path.extension? name = some "so" then some name else none
    | .directory => none
  (names.mergeSort fun a b => decide (a ≤ b)).map (Path.join directory)

/-- Loads modules one after the other; gives the number of those that could be loaded. -/
def loadModules (h : Host) (loader : Loader) (paths : List String) : Nat × Host :=
  paths.foldl (fun (n, h) path => match h.loadModule loader path with
    | (.ok _, h) => (n + 1, h)
    | (.error _, h) => (n, h)) (0, h)

/-- Loads every module directly inside a directory; gives the number of modules. -/
def loadDirectory (h : Host) (loader : Loader) (directory : String) : Except RegistryError Nat × Host :=
  if h.store.files.hasDirectory directory then
    let (n, h) := h.loadModules loader (moduleFiles h.store.files directory)
    (.ok n, h)
  else (.error (.directoryNotFound directory), h)

/-- Loads every module in some directories, passing over those that do not exist. -/
def loadDirectories (h : Host) (loader : Loader) (directories : List String) : Nat × Host :=
  directories.foldl (fun (n, h) directory => match h.loadDirectory loader directory with
    | (.ok m, h) => (n + m, h)
    | (.error _, h) => (n, h)) (0, h)

end Host
end Calibration
