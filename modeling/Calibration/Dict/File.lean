/-
# Dict files

A dict is saved as its document, and loaded by merging the document in a file. A dict that cannot be written
touches no file; a file that cannot be read leaves the dict as it was.
-/

import Calibration.Dict.Document
import Calibration.Files.Tree

namespace Calibration
namespace Dict

/-- Saves the dict at a path. -/
def save (d : Dict) (files : Files) (path : String) : Except DictError Unit × Files :=
  match d.toXml with
  | .error e => (.error e, files)
  | .ok xml =>
    let (result, files) := files.save path xml
    (result.mapError .file, files)

/-- The dict with the entries in a file written over its own. -/
def load (d : Dict) (types : ItemTypes) (files : Files) (path : String) : Except DictError Dict :=
  match files.readText path with
  | .error e => .error (.file e)
  | .ok xml => d.mergeXml types xml

end Dict
end Calibration
