/-
# Where plugins come from
-/

import Calibration.Text.Json

namespace Calibration

/-- The source of a plugin: the host itself, the application, or a module. -/
inductive Origin where
  | builtin
  | static
  | module (path : String)
deriving DecidableEq, Repr

namespace Origin

/-- The source in messages. -/
def text : Origin → String
  | builtin => "builtin"
  | static => "static"
  | module path => path

/-- The source in records. -/
def json : Origin → Text.Json
  | builtin => .object [("kind", .string "builtin")]
  | static => .object [("kind", .string "static")]
  | module path => .object [("kind", .string "module"), ("path", .string path)]

end Origin
end Calibration
