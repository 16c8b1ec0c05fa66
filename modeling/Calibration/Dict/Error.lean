/-
# Faults of dicts and their items
-/

import Calibration.Files.Error
import Calibration.Text.Quoted

namespace Calibration

/-- Why an item or a dict cannot be read or written. -/
inductive DictError where
  | xml (reason : String)
  | invalidValue (tag value : String)
  | unexpectedElement (expected found : String)
  | unknownType (tag : String)
  | file (fault : FileError)
deriving DecidableEq, Repr

def DictError.message : DictError → String
  | xml reason => "XML error: " ++ reason
  | invalidValue tag value => "Invalid " ++ tag ++ " value: " ++ Text.quoted value
  | unexpectedElement expected found =>
    "Unexpected element <" ++ found ++ ">, expected <" ++ expected ++ ">"
  | unknownType tag => "Unknown item type: " ++ tag
  | file fault => "IO error: " ++ fault.message

end Calibration
