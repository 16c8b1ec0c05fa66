/-
# The list of plugins

What a host tells of each of its plugins, in load order.
-/

import Calibration.Host.Basic

namespace Calibration

/-- What a host tells of a plugin. -/
structure Listing where
  name : String
  attributes : List String
  version? : Option String
  origin : Origin
  state : Lifecycle
  error? : Option String
deriving DecidableEq, Repr

/-- The listing in records. -/
def Listing.json (l : Listing) : Text.Json :=
  .object [("name", .string l.name), ("attributes", .strings l.attributes), ("version", .ofOption l.version?),
    ("origin", l.origin.json), ("state", l.state.json), ("error", .ofOption l.error?)]

/-- A version in messages. -/
def versionText (major minor : Nat) : String :=
  String.ofList (Number.digits major ++ '.' :: Number.digits minor)

/-- The listing of a loaded plugin. -/
def Entry.listing (e : Entry) : Listing where
  name := e.handle.name
  attributes := e.handle.plugin.attributes
  version? := e.version?.map fun (major, minor) => versionText major minor
  origin := e.origin
  state := e.handle.state
  error? := e.handle.error

/-- The listings of all plugins. -/
def Host.list (h : Host) : List Listing := h.roster.entries.map Entry.listing

end Calibration
