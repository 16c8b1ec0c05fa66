/-
# A host with the built-in plugins
-/

import Calibration.Builtin.DataSavior
import Calibration.Builtin.DictHash
import Calibration.Host.Basic

namespace Calibration

/-- A host that starts with the plugin that copies between dicts and the plugin that keeps dicts and records,
together with the item type of records. -/
def Host.withBuiltins (files : Files) : Host :=
  let h : Host := {}
  { h with
    store := { h.store with files }
    types := h.types.register "DataSavior" (.records .host)
    roster := (h.roster.add (DictHash.plugin mainTable) .builtin none).add
      (DataSavior.plugin mainTable) .builtin none }

end Calibration
